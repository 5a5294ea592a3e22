/-
Percent encoding. A character outside ASCII is always encoded, byte by byte of its UTF-8 form; each
part of a URL adds ASCII characters of its own.
-/

import CachingGateway.Text.Octets

namespace CachingGateway.Percent

def isControl (character : Char) : Bool :=
  character.toNat < 32 || 126 < character.toNat

def encodedInFragment (character : Char) : Bool :=
  isControl character || character = ' ' || character = '"' || character = '<' ||
    character = '>' || character.toNat = 0x60

def encodedInPath (character : Char) : Bool :=
  encodedInFragment character || character = '#' || character = '?' || character = '{' ||
    character = '}'

def encodedInQuery (character : Char) : Bool :=
  isControl character || character = ' ' || character = '"' || character = '#' ||
    character = '<' || character = '>'

def encodedInSpecialQuery (character : Char) : Bool :=
  encodedInQuery character || character.toNat = 39

def encodedInUserInformation (character : Char) : Bool :=
  encodedInPath character || "/:;=@[\\]^|".toList.contains character

def encodeOctet (octet : UInt8) : List Char :=
  ['%', Ascii.upperHexDigit (octet.toNat / 16), Ascii.upperHexDigit (octet.toNat % 16)]

def encode (encoded : Char → Bool) (text : List Char) : List Char :=
  text.flatMap fun character =>
    if encoded character then (Octets.ofText (String.singleton character)).flatMap encodeOctet
    else [character]

/-- The bytes of a text with each percent sign and its two digits read as one byte. A percent sign
without two digits stands for itself. -/
def decodeOctets : Octets → Octets
  | 37 :: high :: low :: rest =>
    match Ascii.digitValue? 16 (Char.ofNat high.toNat), Ascii.digitValue? 16 (Char.ofNat low.toNat) with
    | some upper, some lower => UInt8.ofNat (upper * 16 + lower) :: decodeOctets rest
    | _, _ => 37 :: decodeOctets (high :: low :: rest)
  | octet :: rest => octet :: decodeOctets rest
  | [] => []

def decode (text : List Char) : Octets :=
  decodeOctets (Octets.ofText (String.ofList text))

end CachingGateway.Percent
