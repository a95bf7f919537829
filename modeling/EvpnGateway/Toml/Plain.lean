import EvpnGateway.Text.Digits
import EvpnGateway.Text.Split
import EvpnGateway.Toml.Value
/-!
# Plain values of TOML

Truth values, numbers and dates: the values that are a single word.

* `integer?`, `isFloat`, `isDate`: words that write an integer, a floating-point number or a date;
* `plain?`: the value of a word.
-/

namespace EvpnGateway.Toml

/-! ## Numbers -/

/-- A run of digits with single underscores between them. -/
def digits? (base : Nat) (text : List Char) : Option Nat :=
  if (split '_' text).all fun part => (Digits.read? base part).isSome then
    Digits.read? base (text.filter (· ≠ '_'))
  else none

/-- A decimal number without sign; a zero stands in front of no other digit. -/
def decimal? (text : List Char) : Option Nat :=
  if text.head? = some '0' ∧ 1 < text.length then none else digits? 10 text

/-- The text behind a sign, and whether that is a minus sign. -/
def splitSign : List Char → Bool × List Char
  | '-' :: rest => (true, rest)
  | '+' :: rest => (false, rest)
  | text => (false, text)

/-- An integer from -2¹²⁷ to 2¹²⁸ - 1: decimal with an optional sign, or in another base behind the
letter for it. -/
def integer? (text : List Char) : Option Int :=
  let value : Option Int := match text with
    | '0' :: 'x' :: rest => (digits? 16 rest).map Int.ofNat
    | '0' :: 'o' :: rest => (digits? 8 rest).map Int.ofNat
    | '0' :: 'b' :: rest => (digits? 2 rest).map Int.ofNat
    | text =>
      let (negative, rest) := splitSign text
      (decimal? rest).map fun n => if negative then -(n : Int) else n
  value.filter fun n => -Int.pow 2 127 ≤ n ∧ n < Int.pow 2 128

/-- The word is a floating-point number within the range of 64 bits: an integer part and a fraction,
an exponent or both, or a word for infinity or for no number. -/
def isFloat (text : List Char) : Bool :=
  let (_, body) := splitSign text
  if body = "inf".toList ∨ body = "nan".toList then true
  else
    let lower := body.map Char.toLower
    let (mantissa, power) := match splitFirst? 'e' lower with
      | some (mantissa, power) =>
        let (negative, digits) := splitSign power
        (mantissa, (digits? 10 digits).map fun n => if negative then -(n : Int) else n)
      | none => (lower, some 0)
    let (whole, fraction) := match splitFirst? '.' mantissa with
      | some (whole, fraction) => (whole, some fraction)
      | none => (mantissa, none)
    match decimal? whole, power with
    | some n, some power =>
      match fraction with
      | none => lower.contains 'e' && !Digits.exceedsDouble n power
      | some fraction => match digits? 10 fraction with
        | some m =>
          let places := (fraction.filter (· ≠ '_')).length
          !Digits.exceedsDouble (n * Nat.pow 10 places + m) (power - places)
        | none => false
    | _, _ => false

/-! ## Dates -/

/-- A number of exactly `width` decimal digits from `lowest` to `highest`. -/
def fixed? (width lowest highest : Nat) (text : List Char) : Option Nat :=
  if text.length = width then (Digits.read? 10 text).filter fun n => lowest ≤ n ∧ n ≤ highest
  else none

/-- The number of days of a month. -/
def monthLength (year month : Nat) : Nat :=
  if month = 2 then if year % 4 = 0 ∧ (year % 100 ≠ 0 ∨ year % 400 = 0) then 29 else 28
  else if month = 4 ∨ month = 6 ∨ month = 9 ∨ month = 11 then 30
  else 31

/-- Year, month and day. -/
def isDay (text : List Char) : Bool :=
  match split '-' text with
  | [year, month, day] =>
    match fixed? 4 0 9999 year, fixed? 2 1 12 month with
    | some year, some month => (fixed? 2 1 (monthLength year month) day).isSome
    | _, _ => false
  | _ => false

/-- Seconds with an optional fraction; a minute may have a leap second. -/
def isSecond (text : List Char) : Bool :=
  match splitFirst? '.' text with
  | some (second, fraction) =>
    (fixed? 2 0 60 second).isSome && (Digits.read? 10 fraction).isSome
  | none => (fixed? 2 0 60 text).isSome

/-- Hours and minutes, and seconds if they are given. -/
def isTime (text : List Char) : Bool :=
  match split ':' text with
  | hour :: minute :: seconds =>
    (fixed? 2 0 23 hour).isSome && (fixed? 2 0 59 minute).isSome &&
      match seconds with
      | [] => true
      | [second] => isSecond second
      | _ => false
  | _ => false

/-- The text without an offset from universal time at its end. -/
def dropOffset (text : List Char) : List Char :=
  match text.getLast? with
  | some 'Z' | some 'z' => text.dropLast
  | _ =>
    let front := text.take (text.length - 6)
    match text.drop front.length with
    | sign :: offset =>
      if (sign = '+' ∨ sign = '-') ∧ (split ':' offset).length = 2 ∧ isTime offset then front
      else text
    | [] => text

/-- The word is a date, a time, or both with an optional offset behind them. -/
def isDate (text : List Char) : Bool :=
  isDay text || isTime text ||
    (isDay (text.take 10) && match text.drop 10 with
      | c :: rest => (c = 'T' || c = 't' || c = ' ') && isTime (dropOffset rest)
      | [] => false)

/-! ## Words -/

/-- The value of a word. -/
def plain? (text : List Char) : Option Value :=
  if text = "true".toList then some (.boolean true)
  else if text = "false".toList then some (.boolean false)
  else match integer? text with
    | some n => some (.integer n)
    | none =>
      if isFloat text then some .float else if isDate text then some .date else none

end EvpnGateway.Toml
