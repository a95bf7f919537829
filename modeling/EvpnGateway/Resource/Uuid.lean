import EvpnGateway.Text.Digits
/-!
# Random identifiers

* `Uuid.random`: an identifier of version 4 made of random bits;
* `Uuid.text`, `Uuid.hex`: its digits in groups and in one run.
-/

namespace EvpnGateway

/-- An identifier of 128 bits. -/
structure Uuid where
  high : UInt64
  low : UInt64
  deriving DecidableEq, Repr

namespace Uuid

/-- Random bits with the version (4) and the variant put in their places. -/
def random (high low : UInt64) : Uuid :=
  ⟨(high &&& 0xffffffffffff0fff) ||| 0x4000,
    (low &&& 0x3fffffffffffffff) ||| 0x8000000000000000⟩

/-- The thirty-two hexadecimal digits. -/
def hex (uuid : Uuid) : List Char :=
  Digits.padded 16 16 uuid.high.toNat ++ Digits.padded 16 16 uuid.low.toNat

/-- The digits in groups of 8, 4, 4, 4 and 12 with hyphens between them. -/
def chars (uuid : Uuid) : List Char :=
  let digits := uuid.hex
  ['-'].intercalate [digits.take 8, (digits.drop 8).take 4, (digits.drop 12).take 4,
    (digits.drop 16).take 4, digits.drop 20]

/-- The written form of an identifier. -/
def text (uuid : Uuid) : String := String.ofList uuid.chars

end Uuid

end EvpnGateway
