/-
Byte strings, and their two readings as text: UTF-8 for bodies and files, and visible ASCII for
header values. The second reading fails on any byte that is neither printable ASCII nor a tab.
-/

import CachingGateway.Text.Ascii

namespace CachingGateway

abbrev Octets := List UInt8

namespace Octets

def ofText (text : String) : Octets :=
  text.toUTF8.toList

def utf8? (octets : Octets) : Option String :=
  String.fromUTF8? (ByteArray.mk octets.toArray)

def isVisible (octet : UInt8) : Bool :=
  (32 ≤ octet && octet < 127) || octet == 9

/-- The characters of a byte string made of visible ASCII and tabs only. -/
def visible? (octets : Octets) : Option (List Char) :=
  if octets.all isVisible then some (octets.map fun octet => Char.ofNat octet.toNat) else none

def hex (octets : Octets) : List Char :=
  octets.flatMap fun octet => [Ascii.hexDigit (octet.toNat / 16), Ascii.hexDigit (octet.toNat % 16)]

def ofHex? : List Char → Option Octets
  | [] => some []
  | [_] => none
  | high :: low :: rest => do
    let upper ← Ascii.digitValue? 16 high
    let lower ← Ascii.digitValue? 16 low
    let octets ← ofHex? rest
    pure (UInt8.ofNat (upper * 16 + lower) :: octets)

end Octets

end CachingGateway
