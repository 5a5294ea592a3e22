/-
The characters with the Unicode property White_Space, and trimming by that property.
-/

import CachingGateway.Text.Ascii

namespace CachingGateway.Blank

/-- Membership in the Unicode property White_Space. -/
def isBlank (character : Char) : Bool :=
  let code := character.toNat
  (9 ≤ code && code ≤ 13) || code == 0x20 || code == 0x85 || code == 0xA0 || code == 0x1680 ||
    (0x2000 ≤ code && code ≤ 0x200A) || code == 0x2028 || code == 0x2029 || code == 0x202F ||
    code == 0x205F || code == 0x3000

def trim (text : List Char) : List Char :=
  Ascii.trimWhile isBlank text

def trimStart (text : List Char) : List Char :=
  text.dropWhile isBlank

end CachingGateway.Blank
