/-
Random identifiers of the fourth version: sixteen random bytes, of which six bits are fixed, in
hexadecimal groups divided by hyphens.
-/

import CachingGateway.Text.Octets

namespace CachingGateway.Uuid

/-- Fixes the bits that tell the version and the variant. -/
def mark (random : Octets) : Octets :=
  random.zipIdx.map fun (octet, place) =>
    if place = 6 then octet % 16 + 64 else if place = 8 then octet % 64 + 128 else octet

def text (random : Octets) : List Char :=
  let digits := Octets.hex (mark random)
  Ascii.joinWith ['-'] [digits.take 8, (digits.drop 8).take 4, (digits.drop 12).take 4,
    (digits.drop 16).take 4, digits.drop 20]

end CachingGateway.Uuid
