/-!
# Quoting for the shell

* `shellQuote`: a text between double quotes, with a backslash in front of the characters that
  would mean something there.
-/

namespace EvpnGateway

/-- A character that keeps a meaning between double quotes, or a line feed. -/
def isShellSpecial (c : Char) : Bool :=
  c = '$' || c = '\x60' || c = '"' || c = '\\' || c = '\n'

/-- A character as it stands between double quotes. -/
def shellEscape (c : Char) : List Char := if isShellSpecial c then ['\\', c] else [c]

/-- A text between double quotes as characters. -/
def shellQuoteChars (text : List Char) : List Char := '"' :: text.flatMap shellEscape ++ ['"']

/-- A text between double quotes, its special characters escaped. -/
def shellQuote (text : String) : String := String.ofList (shellQuoteChars text.toList)

end EvpnGateway
