/-!
# Numerals

Numbers as text, in a base of at most sixteen.

* `digit?`, `read?`: the value of a digit and of a non-empty run of digits, letters in either case;
* `readBelow?`, `readInt?`: whole numbers with an optional sign, inside a bound;
* `numeral`, `padded`: the shortest numeral, and one filled with zeros to a width;
* `exceedsDouble`: decimals beyond the largest floating-point number of 64 bits.
-/

namespace EvpnGateway.Digits

/-- The value of a digit in `base`; a letter stands for ten and up, in either case. -/
def digit? (base : Nat) (c : Char) : Option Nat :=
  let value :=
    if c.isDigit then c.toNat - '0'.toNat
    else if 'a' ≤ c ∧ c ≤ 'z' then c.toNat - 'a'.toNat + 10
    else if 'A' ≤ c ∧ c ≤ 'Z' then c.toNat - 'A'.toNat + 10
    else base
  if value < base then some value else none

/-- Reads further digits after those that make up `n`. -/
def readFrom? (base : Nat) (n : Nat) : List Char → Option Nat
  | [] => some n
  | c :: rest => (digit? base c).bind fun d => readFrom? base (n * base + d) rest

/-- The value of a run of digits; none for the empty text and for any other character. -/
def read? (base : Nat) : List Char → Option Nat
  | [] => none
  | text => readFrom? base 0 text

/-- The text without one leading plus sign. -/
def dropPlus : List Char → List Char
  | '+' :: rest => rest
  | text => text

/-- A whole number below `limit`: an optional plus sign, then any number of digits. -/
def readBelow? (base limit : Nat) (text : List Char) : Option Nat :=
  (read? base (dropPlus text)).filter (· < limit)

/-- A decimal whole number from `lowest` to `highest`, with an optional sign. -/
def readInt? (lowest highest : Int) (text : List Char) : Option Int :=
  let value := match text with
    | '-' :: rest => (read? 10 rest).map fun n => -(n : Int)
    | text => (read? 10 (dropPlus text)).map fun n => (n : Int)
  value.filter fun n => lowest ≤ n ∧ n ≤ highest

/-- The shortest numeral of `n`; digits above nine are lower-case letters. -/
def numeral (base n : Nat) : List Char := Nat.toDigits base n

/-- The numeral of `n` with zeros in front up to `width` digits. -/
def padded (width base n : Nat) : List Char :=
  let digits := numeral base n
  List.replicate (width - digits.length) '0' ++ digits

/-- The decimal `digits · 10 ^ exponent` lies beyond the largest double. -/
def exceedsDouble (digits : Nat) (exponent : Int) : Bool :=
  let places := (numeral 10 digits).length + exponent
  if digits = 0 ∨ places < 300 then false
  else if 320 < places then true
  else Nat.pow 2 1024 - Nat.pow 2 970 ≤
    (if 0 ≤ exponent then digits * Nat.pow 10 exponent.toNat
    else digits / Nat.pow 10 (-exponent).toNat)

end EvpnGateway.Digits
