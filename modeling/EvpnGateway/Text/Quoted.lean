import EvpnGateway.Text.Digits
import EvpnGateway.Text.Hidden
/-!
# Quoted text

A text between double quotes in which every character can be made out: quotes and backslashes get a
backslash, the usual controls their letter, and other hidden characters their number in braces.

* `quoteChar`, `quoted`.
-/

namespace EvpnGateway

/-- A character as it stands inside a quotation. -/
def quoteChar (c : Char) : List Char :=
  if c = '"' ∨ c = '\\' then ['\\', c]
  else if c = '\n' then ['\\', 'n']
  else if c = '\r' then ['\\', 'r']
  else if c = '\t' then ['\\', 't']
  else if c.toNat = 0 then ['\\', '0']
  else if c.toNat < 0x20 || isHidden c then
    ['\\', 'u', '\x7b'] ++ Digits.numeral 16 c.toNat ++ ['\x7d']
  else [c]

/-- The text between double quotes, with everything spelled out that could mislead a reader. -/
def quoted (text : String) : String :=
  String.ofList ('"' :: text.toList.flatMap quoteChar ++ ['"'])

end EvpnGateway
