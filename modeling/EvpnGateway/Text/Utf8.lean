/-!
# UTF-8

Bytes read as text. A part of the bytes that begins like a character and does not end as one is an
ill-formed unit, as long as it can be.

* `encode`: the bytes of a text;
* `unit`: the first character or ill-formed unit of some bytes; `units`: all of them in order;
* `decode?`: the text of well-formed bytes; `decodeLossy`: every ill-formed unit shows as U+FFFD.
-/

namespace EvpnGateway.Utf8

/-- The bytes of a text. -/
def encode (text : String) : List UInt8 := text.toList.flatMap String.utf8EncodeChar

/-- The number of bytes of a text. -/
def size (text : String) : Nat := text.utf8ByteSize

/-- Reads `more` continuation bytes, the first of them from `low` to `high`, after the bits in
`bits`; none if one is missing, and then what follows starts at the byte in its place. -/
def follow (low high : UInt8) (more bits : Nat) : List UInt8 → Option Char × List UInt8
  | [] => match more with
    | 0 => (some (Char.ofNat bits), [])
    | _ + 1 => (none, [])
  | byte :: rest => match more with
    | 0 => (some (Char.ofNat bits), byte :: rest)
    | more + 1 =>
      if low ≤ byte ∧ byte ≤ high then
        follow 0x80 0xbf more (bits * 64 + byte.toNat % 64) rest
      else (none, byte :: rest)

theorem follow_length_le (low high : UInt8) (more bits : Nat) (bytes : List UInt8) :
    (follow low high more bits bytes).2.length ≤ bytes.length := by
  induction bytes generalizing low high more bits with
  | nil => cases more <;> simp [follow]
  | cons byte rest ih =>
    cases more with
    | zero => simp [follow]
    | succ more =>
      simp only [follow]
      split
      · exact Nat.le_trans (ih ..) (Nat.le_succ _)
      · simp

/-- The character or the ill-formed unit that `byte` and what follows it begin with. -/
def unit (byte : UInt8) (rest : List UInt8) : Option Char × List UInt8 :=
  let n := byte.toNat
  if n < 0x80 then (some (Char.ofNat n), rest)
  else if n < 0xc2 then (none, rest)
  else if n < 0xe0 then follow 0x80 0xbf 1 (n % 32) rest
  else if n = 0xe0 then follow 0xa0 0xbf 2 (n % 16) rest
  else if n = 0xed then follow 0x80 0x9f 2 (n % 16) rest
  else if n < 0xf0 then follow 0x80 0xbf 2 (n % 16) rest
  else if n = 0xf0 then follow 0x90 0xbf 3 (n % 8) rest
  else if n < 0xf4 then follow 0x80 0xbf 3 (n % 8) rest
  else if n = 0xf4 then follow 0x80 0x8f 3 (n % 8) rest
  else (none, rest)

theorem unit_length_le (byte : UInt8) (rest : List UInt8) :
    (unit byte rest).2.length ≤ rest.length := by
  unfold unit
  dsimp only
  repeat' split
  all_goals first | exact Nat.le_refl _ | exact follow_length_le ..

/-- The characters and ill-formed units of some bytes, in order. -/
def units : List UInt8 → List (Option Char)
  | [] => []
  | byte :: rest => (unit byte rest).1 :: units (unit byte rest).2
termination_by bytes => bytes.length
decreasing_by exact Nat.lt_succ_of_le (unit_length_le ..)

/-- The text of well-formed bytes. -/
def decode? (bytes : List UInt8) : Option String := ((units bytes).mapM id).map String.ofList

/-- The text of any bytes: every ill-formed unit shows as the replacement character. -/
def decodeLossy (bytes : List UInt8) : String :=
  String.ofList ((units bytes).map fun unit => unit.getD '\uFFFD')

end EvpnGateway.Utf8
