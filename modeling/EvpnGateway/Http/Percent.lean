import EvpnGateway.Text.Digits
import EvpnGateway.Text.Split
import EvpnGateway.Text.Utf8
/-!
# Percent encoding

In URLs a percent sign and two hexadecimal digits stand for a byte.

* `percentDecode`: the bytes that a text stands for;
* `Form`: the fields of a query, `Form.parse`; `Form.single?`: a field that comes at most once.
-/

namespace EvpnGateway.Http

/-- The bytes that a text stands for. A percent sign without two hexadecimal digits behind it stands
for itself. -/
def percentDecode : List Char → List UInt8
  | [] => []
  | '%' :: high :: low :: rest =>
    match Digits.digit? 16 high, Digits.digit? 16 low with
    | some h, some l => UInt8.ofNat (h * 16 + l) :: percentDecode rest
    | _, _ => String.utf8EncodeChar '%' ++ percentDecode (high :: low :: rest)
  | c :: rest => String.utf8EncodeChar c ++ percentDecode rest

/-- The fields of a query in order, names and values in plain text. -/
abbrev Form := List (String × String)

namespace Form

/-- A name or value in plain text: plus signs are blanks, and bytes that are no text show as
U+FFFD. -/
def component (text : List Char) : String :=
  Utf8.decodeLossy (percentDecode (text.map fun c => if c = '+' then ' ' else c))

/-- A field: a name and, behind the first equals sign, a value. -/
def field (text : List Char) : String × String :=
  match splitFirst? '=' text with
  | some (name, value) => (component name, component value)
  | none => (component text, "")

/-- The fields between ampersands; empty ones do not count. -/
def parse (query : List Char) : Form :=
  ((split '&' query).filter fun part => !part.isEmpty).map field

/-- The value of a field that must not come twice: `none` if it does, `some none` without it. -/
def single? (form : Form) (name : String) : Option (Option String) :=
  match form.filter fun (other, _) => other == name with
  | [] => some none
  | [(_, value)] => some (some value)
  | _ :: _ :: _ => none

end Form

end EvpnGateway.Http
