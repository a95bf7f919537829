/-!
# White space

The Unicode property White_Space, and texts freed of it at both ends.

* `isBlank`: the twenty-five characters of the property;
* `trim`: a text without its outer blanks; `isBlankText`: nothing but blanks.
-/

namespace EvpnGateway

/-- The character has the Unicode property White_Space. -/
def isBlank (c : Char) : Bool :=
  let n := c.toNat
  (0x9 ≤ n && n ≤ 0xd) || n == 0x20 || n == 0x85 || n == 0xa0 || n == 0x1680 ||
    (0x2000 ≤ n && n ≤ 0x200a) || n == 0x2028 || n == 0x2029 || n == 0x202f || n == 0x205f ||
    n == 0x3000

/-- The characters between the first and the last that are no blanks. -/
def trimChars (text : List Char) : List Char :=
  ((text.dropWhile isBlank).reverse.dropWhile isBlank).reverse

/-- The text without the blanks at its two ends. -/
def trim (text : String) : String := String.ofList (trimChars text.toList)

/-- The text holds nothing but blanks. -/
def isBlankText (text : String) : Bool := text.toList.all isBlank

end EvpnGateway
