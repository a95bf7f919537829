import EvpnGateway.Toml.Plain
/-!
# Reading TOML

* `string`, `key`, `value`: readers for the parts of a statement;
* `blanks`, `skipLines`, `lineEnd`: what may stand between them.
-/

namespace EvpnGateway.Toml

/-- Takes something off the front of a text. -/
abbrev Reader := StateT (List Char) (Except Fault)

/-! ## Between values -/

/-- A blank or a tab. -/
def isBlankOrTab (c : Char) : Bool := c = ' ' || c = '\t'

/-- A control character that may stand nowhere, line ends being seen before it. -/
def isControl (c : Char) : Bool := (c.toNat < 0x20 && c ≠ '\t') || c = '\x7f'

/-- Passes over blanks and tabs. -/
def blanks : Reader Unit := modify (·.dropWhile isBlankOrTab)

/-- The next character, which is not read. -/
def peek : Reader (Option Char) := do return (← get).head?

/-- Reads one character that has to be there. -/
def expect (c : Char) : Reader Unit := do
  match ← get with
  | d :: rest => if c = d then set rest else throw (.expected (String.singleton c))
  | [] => throw (.expected (String.singleton c))

/-- What follows blanks, line ends and comments; the flag tells that the text begins inside a
comment. -/
def afterLines (comment : Bool) : List Char → Except Fault (List Char)
  | [] => .ok []
  | '\n' :: rest => afterLines false rest
  | '\r' :: '\n' :: rest => afterLines false rest
  | c :: rest =>
    if isControl c then .error (.badCharacter c)
    else if comment ∨ isBlankOrTab c then afterLines comment rest
    else if c = '#' then afterLines true rest
    else .ok (c :: rest)

/-- Passes over blanks, line ends and comments. -/
def skipLines : Reader Unit := do set (← afterLines false (← get))

/-- What follows a comment and the line end behind it. -/
def afterComment : List Char → Except Fault (List Char)
  | [] => .ok []
  | '\n' :: rest => .ok rest
  | '\r' :: '\n' :: rest => .ok rest
  | c :: rest => if isControl c then .error (.badCharacter c) else afterComment rest

/-- The end of a line, which a comment may precede. -/
def lineEnd : Reader Unit := do
  blanks
  match ← get with
  | '#' :: rest => set (← afterComment rest)
  | [] => pure ()
  | '\n' :: rest => set rest
  | '\r' :: '\n' :: rest => set rest
  | _ => throw (.expected "line end")

/-! ## Strings -/

/-- The character of an escape of one letter. -/
def shortEscape? : Char → Option Char
  | 'b' => some (Char.ofNat 8)
  | 't' => some '\t'
  | 'n' => some '\n'
  | 'f' => some (Char.ofNat 12)
  | 'r' => some '\r'
  | 'e' => some (Char.ofNat 27)
  | '"' => some '"'
  | '\\' => some '\\'
  | _ => none

/-- The character of a number written in hexadecimal digits. -/
def hexEscape? (digits : List Char) : Option Char :=
  ((Digits.read? 16 digits).filter fun n => n.isValidChar).map Char.ofNat

/-- The text begins a new line behind blanks. -/
def isLineEnd (text : List Char) : Bool :=
  match text.dropWhile isBlankOrTab with
  | '\n' :: _ => true
  | '\r' :: '\n' :: _ => true
  | _ => false

/-- Puts characters in front of those that a reader found. -/
def prepend (chars : List Char) (result : Except Fault (List Char × List Char)) :
    Except Fault (List Char × List Char) :=
  result.map fun (found, rest) => (chars ++ found, rest)

/-- The character of an escape, in front of what follows. -/
def escaped (c : Option Char) (result : Except Fault (List Char × List Char)) :
    Except Fault (List Char × List Char) :=
  match c with
  | some c => prepend [c] result
  | none => .error .badEscape

/-- The characters of a string on one line, up to its closing quote. -/
def lineChars : List Char → Except Fault (List Char × List Char)
  | [] => .error (.expected "closing quote")
  | '"' :: rest => .ok ([], rest)
  | '\\' :: 'x' :: a :: b :: rest => escaped (hexEscape? [a, b]) (lineChars rest)
  | '\\' :: 'u' :: a :: b :: c :: d :: rest => escaped (hexEscape? [a, b, c, d]) (lineChars rest)
  | '\\' :: 'U' :: a :: b :: c :: d :: e :: f :: g :: h :: rest =>
    escaped (hexEscape? [a, b, c, d, e, f, g, h]) (lineChars rest)
  | '\\' :: c :: rest => escaped (shortEscape? c) (lineChars rest)
  | c :: rest => if isControl c then .error (.badCharacter c) else prepend [c] (lineChars rest)

/-- The characters of a string on several lines, up to its three closing quotes, which one or two
quotes of the string itself may precede. Behind a backslash at the end of a line, all blanks and
line ends are passed over; the flag tells that this is under way. -/
def paragraphChars (skipping : Bool) : List Char → Except Fault (List Char × List Char)
  | [] => .error (.expected "closing quotes")
  | '"' :: '"' :: '"' :: '"' :: '"' :: rest => .ok (['"', '"'], rest)
  | '"' :: '"' :: '"' :: '"' :: rest => .ok (['"'], rest)
  | '"' :: '"' :: '"' :: rest => .ok ([], rest)
  | '\r' :: '\n' :: rest =>
    prepend (if skipping then [] else ['\r', '\n']) (paragraphChars skipping rest)
  | '\n' :: rest => prepend (if skipping then [] else ['\n']) (paragraphChars skipping rest)
  | '\\' :: 'x' :: a :: b :: rest => escaped (hexEscape? [a, b]) (paragraphChars false rest)
  | '\\' :: 'u' :: a :: b :: c :: d :: rest =>
    escaped (hexEscape? [a, b, c, d]) (paragraphChars false rest)
  | '\\' :: 'U' :: a :: b :: c :: d :: e :: f :: g :: h :: rest =>
    escaped (hexEscape? [a, b, c, d, e, f, g, h]) (paragraphChars false rest)
  | '\\' :: rest =>
    if isLineEnd rest then paragraphChars true rest
    else match rest with
      | c :: rest => escaped (shortEscape? c) (paragraphChars false rest)
      | [] => .error .badEscape
  | c :: rest =>
    if isControl c then .error (.badCharacter c)
    else if skipping ∧ isBlankOrTab c then paragraphChars true rest
    else prepend [c] (paragraphChars false rest)

/-- The characters of a literal string on one line, up to its closing apostrophe. -/
def literalLineChars : List Char → Except Fault (List Char × List Char)
  | [] => .error (.expected "closing quote")
  | '\x27' :: rest => .ok ([], rest)
  | c :: rest =>
    if isControl c then .error (.badCharacter c) else prepend [c] (literalLineChars rest)

/-- The characters of a literal string on several lines. -/
def literalParagraphChars : List Char → Except Fault (List Char × List Char)
  | [] => .error (.expected "closing quotes")
  | '\x27' :: '\x27' :: '\x27' :: '\x27' :: '\x27' :: rest => .ok (['\x27', '\x27'], rest)
  | '\x27' :: '\x27' :: '\x27' :: '\x27' :: rest => .ok (['\x27'], rest)
  | '\x27' :: '\x27' :: '\x27' :: rest => .ok ([], rest)
  | '\r' :: '\n' :: rest => prepend ['\r', '\n'] (literalParagraphChars rest)
  | '\n' :: rest => prepend ['\n'] (literalParagraphChars rest)
  | c :: rest =>
    if isControl c then .error (.badCharacter c) else prepend [c] (literalParagraphChars rest)

/-- The text without the line end that it begins with. -/
def dropLineEnd : List Char → List Char
  | '\n' :: rest => rest
  | '\r' :: '\n' :: rest => rest
  | text => text

/-- The text between the quotes that `chars` looks for. -/
def string (chars : List Char → Except Fault (List Char × List Char)) : Reader String :=
  fun text => (chars text).map fun (found, rest) => (String.ofList found, rest)

/-- A string behind the first of its quotes, on one line or, where several are allowed, on more. -/
def stringRest (quote : Char) (several : Bool) : Reader String := fun text =>
  let literal := quote = '\x27'
  match text with
  | a :: b :: rest =>
    if several ∧ a = quote ∧ b = quote then
      string (if literal then literalParagraphChars else paragraphChars false) (dropLineEnd rest)
    else string (if literal then literalLineChars else lineChars) text
  | _ => string (if literal then literalLineChars else lineChars) text

/-! ## Keys -/

/-- A character of keys without quotes. -/
def isKeyChar (c : Char) : Bool := c.isAlphanum || c = '_' || c = '-'

/-- A key without dots, in quotes or without. -/
def simpleKey : Reader String := fun text =>
  match text with
  | '"' :: rest => stringRest '"' false rest
  | '\x27' :: rest => stringRest '\x27' false rest
  | _ =>
    let word := text.takeWhile isKeyChar
    if word.isEmpty then .error (.expected "key")
    else .ok (String.ofList word, text.dropWhile isKeyChar)

/-- Keys with dots between them, and blanks around those. -/
def keyPath : (fuel : Nat) → Reader (List String)
  | 0 => throw (.expected "key")
  | fuel + 1 => do
    blanks
    let first ← simpleKey
    blanks
    match ← peek with
    | some '.' => do
      expect '.'
      return first :: (← keyPath fuel)
    | _ => return [first]

/-- Keys with dots between them. -/
def key : Reader (List String) := fun text => keyPath (text.length + 1) text

/-! ## Values -/

/-- A character of values that are a single word. -/
def isWordChar (c : Char) : Bool := c.isAlphanum || "_+-.:".toList.contains c

/-- A single word. A blank and a digit behind a date go on with its time. -/
def word : Reader Value := fun text =>
  let first := text.takeWhile isWordChar
  let rest := text.dropWhile isWordChar
  let (found, rest) := match rest with
    | ' ' :: c :: after =>
      if isDay first ∧ c.isDigit then
        (first ++ ' ' :: (c :: after).takeWhile isWordChar, (c :: after).dropWhile isWordChar)
      else (first, rest)
    | _ => (first, rest)
  match plain? found with
  | some value => .ok (value, rest)
  | none => .error (.badValue (String.ofList found))

/-- The deepest nesting of arrays and inline tables. -/
def maxDepth : Nat := 80

mutual

/-- A value inside `depth` brackets. -/
def valueAt : (fuel depth : Nat) → Reader Value
  | 0, _ => throw (.expected "value")
  | fuel + 1, depth => do
    match ← get with
    | '"' :: rest => do set rest; .string <$> stringRest '"' true
    | '\x27' :: rest => do set rest; .string <$> stringRest '\x27' true
    | '[' :: rest => do
      if maxDepth ≤ depth then throw .tooDeep
      set rest
      .array <$> itemsAt fuel (depth + 1)
    | '\x7b' :: rest => do
      if maxDepth ≤ depth then throw .tooDeep
      set rest
      .table .inline <$> entriesAt fuel (depth + 1) []
    | _ => word

/-- The items of an array up to its closing bracket; a comma may stand behind the last. -/
def itemsAt : (fuel depth : Nat) → Reader (List Value)
  | 0, _ => throw (.expected "value")
  | fuel + 1, depth => do
    skipLines
    if (← peek) = some ']' then
      expect ']'
      return []
    let item ← valueAt fuel depth
    skipLines
    if (← peek) = some ',' then
      expect ','
      return item :: (← itemsAt fuel depth)
    expect ']'
    return [item]

/-- The entries of an inline table up to its closing brace; a comma may stand behind the last. -/
def entriesAt : (fuel depth : Nat) → Entries → Reader Entries
  | 0, _, _ => throw (.expected "key")
  | fuel + 1, depth, entries => do
    skipLines
    if (← peek) = some '\x7d' then
      expect '\x7d'
      return entries
    let path ← key
    expect '='
    blanks
    let value ← valueAt fuel depth
    let entries ← assign path value entries
    skipLines
    if (← peek) = some ',' then
      expect ','
      return ← entriesAt fuel depth entries
    expect '\x7d'
    return entries

end

/-- A value. -/
def value : Reader Value := fun text => valueAt (text.length + 1) 0 text

end EvpnGateway.Toml
