import EvpnGateway.Text.Digits
/-!
# JSON values and their text

* `Json`: values with integer numbers only; object members keep their order;
* `Json.render`: the text without spaces in which each character is escaped only if it has to be.
-/

namespace EvpnGateway

/-- A JSON value. -/
inductive Json where
  | null
  | bool (value : Bool)
  | number (value : Int)
  | string (value : String)
  | array (items : List Json)
  | object (members : List (String × Json))
  deriving Repr, Inhabited

namespace Json

/-- A character as it stands inside a string: controls, quotes and backslashes are escaped. -/
def escape (c : Char) : List Char :=
  if c = '"' then ['\\', '"']
  else if c = '\\' then ['\\', '\\']
  else if c.toNat = 8 then ['\\', 'b']
  else if c.toNat = 12 then ['\\', 'f']
  else if c = '\n' then ['\\', 'n']
  else if c = '\r' then ['\\', 'r']
  else if c = '\t' then ['\\', 't']
  else if c.toNat < 0x20 then '\\' :: 'u' :: Digits.padded 4 16 c.toNat
  else [c]

/-- A string between quotes. -/
def stringChars (value : String) : List Char := '"' :: value.toList.flatMap escape ++ ['"']

/-- A decimal number. -/
def numberChars : Int → List Char
  | .ofNat n => Digits.numeral 10 n
  | .negSucc n => '-' :: Digits.numeral 10 (n + 1)

mutual

/-- The text of a value as characters. -/
def chars : Json → List Char
  | null => "null".toList
  | bool true => "true".toList
  | bool false => "false".toList
  | number value => numberChars value
  | string value => stringChars value
  | array items => '[' :: itemChars items ++ [']']
  | object members => '\x7b' :: memberChars members ++ ['\x7d']

/-- Items with commas between them. -/
def itemChars : List Json → List Char
  | [] => []
  | [item] => item.chars
  | item :: items => item.chars ++ ',' :: itemChars items

/-- Members with commas between them. -/
def memberChars : List (String × Json) → List Char
  | [] => []
  | [(name, value)] => stringChars name ++ ':' :: value.chars
  | (name, value) :: members =>
    stringChars name ++ ':' :: value.chars ++ ',' :: memberChars members

end

/-- The text of a value. -/
def render (value : Json) : String := String.ofList value.chars

end Json

end EvpnGateway
