/-
Host names. A name is read as UTF-8, folded to its compatible lower-case form and checked label by
label; a label that claims to be encoded must decode. The result is ASCII: a label with other
characters is written in its encoded form.
-/

import CachingGateway.Number.Word
import CachingGateway.Text.Octets

namespace CachingGateway.Domain

def base : Nat := 36
def leastThreshold : Nat := 1
def greatestThreshold : Nat := 26
def skew : Nat := 38
def damp : Nat := 700
def firstBias : Nat := 72
def firstCode : Nat := 128

/-- Divides a gap down to the range of one digit, counting steps; the fuel bounds the steps. -/
def settleGap (fuel gap steps : Nat) : Nat × Nat :=
  match fuel with
  | 0 => (gap, steps)
  | less + 1 =>
    if (base - leastThreshold) * greatestThreshold / 2 < gap then
      settleGap less (gap / (base - leastThreshold)) (steps + base)
    else (gap, steps)

def adaptedBias (gap count : Nat) (first : Bool) : Nat :=
  let scaled := if first then gap / damp else gap / 2
  let (settled, steps) := settleGap 64 (scaled + scaled / count) 0
  steps + (base - leastThreshold + 1) * settled / (settled + skew)

def threshold (place bias : Nat) : Nat :=
  if place ≤ bias + leastThreshold then leastThreshold
  else if bias + greatestThreshold ≤ place then greatestThreshold
  else place - bias

def labelDigit? (character : Char) : Option Nat :=
  if 'a' ≤ character && character ≤ 'z' then some (character.toNat - 97)
  else if 'A' ≤ character && character ≤ 'Z' then some (character.toNat - 65)
  else if Ascii.isDigit character then some (character.toNat - 48 + 26)
  else none

def labelDigit (value : Nat) : Char :=
  if value < 26 then Char.ofNat (97 + value) else Char.ofNat (22 + value)

def readGap? (bias : Nat) : Nat → Nat → Nat → List Char → Option (Nat × List Char)
  | _, _, _, [] => none
  | place, weight, total, character :: rest => do
    let digit ← labelDigit? character
    let gap := total + digit * weight
    let limit := threshold place bias
    if Word.greatest32 < gap then none
    else if digit < limit then pure (gap, rest)
    else readGap? bias (place + base) (weight * (base - limit)) gap rest

def insertAll? (fuel code index bias : Nat) (read : List Char) (text : List Char) :
    Option (List Char) :=
  match text, fuel with
  | [], _ => some read
  | _, 0 => none
  | _, less + 1 => do
    let (gap, rest) ← readGap? bias base 1 index text
    let count := read.length + 1
    let nextCode := code + gap / count
    let place := gap % count
    if 0x10FFFF < nextCode ∨ (0xD800 ≤ nextCode ∧ nextCode < 0xE000) then none
    else
      let nextBias := adaptedBias (gap - index) count (index = 0)
      insertAll? less nextCode (place + 1) nextBias
        (read.take place ++ Char.ofNat nextCode :: read.drop place) rest

def decodeLabel? (text : List Char) : Option (List Char) :=
  match Ascii.splitLast? '-' text with
  | some (plain, encoded) =>
    if plain.isEmpty then insertAll? text.length firstCode 0 firstBias [] text
    else insertAll? text.length firstCode 0 firstBias plain encoded
  | none => insertAll? text.length firstCode 0 firstBias [] text

def writeGap (fuel bias place gap : Nat) : List Char :=
  match fuel with
  | 0 => []
  | less + 1 =>
    let limit := threshold place bias
    if gap < limit then [labelDigit gap]
    else
      labelDigit (limit + (gap - limit) % (base - limit)) ::
        writeGap less bias (place + base) ((gap - limit) / (base - limit))

/-- The state of encoding a label: gap, bias, characters handled and digits written, latest last. -/
structure Encoding where
  gap : Nat
  bias : Nat
  handled : Nat
  first : Bool
  written : List Char

def Encoding.pass (code : Nat) (encoding : Encoding) (character : Char) : Encoding :=
  if character.toNat < code then { encoding with gap := encoding.gap + 1 }
  else if character.toNat = code then
    { gap := 0
      bias := adaptedBias encoding.gap (encoding.handled + 1) encoding.first
      handled := encoding.handled + 1
      first := false
      written := encoding.written ++ writeGap 16 encoding.bias base encoding.gap }
  else encoding

def Encoding.insertCode (label : List Char) (state : Encoding × Nat) (code : Nat) :
    Encoding × Nat :=
  let (encoding, reached) := state
  let raised := { encoding with gap := encoding.gap + (code - reached) * (encoding.handled + 1) }
  let passed := label.foldl (Encoding.pass code) raised
  ({ passed with gap := passed.gap + 1 }, code + 1)

def encodeLabel (label : List Char) : List Char :=
  let plain := label.filter fun character => character.toNat < firstCode
  let codes := ((label.map Char.toNat).filter (firstCode ≤ ·)).eraseDups.mergeSort
  let start : Encoding := ⟨0, firstBias, plain.length, true, []⟩
  let (encoding, _) := codes.foldl (Encoding.insertCode label) (start, firstCode)
  plain ++ (if plain.isEmpty then [] else ['-']) ++ encoding.written

def isIgnored (code : Nat) : Bool :=
  code == 0xAD || code == 0x34F || (0x180B ≤ code && code ≤ 0x180D) || code == 0x180F ||
    code == 0x200B || code == 0x2060 || code == 0x2064 || (0xFE00 ≤ code && code ≤ 0xFE0F) ||
    code == 0xFEFF || (0x1BCA0 ≤ code && code ≤ 0x1BCA3) || (0xE0100 ≤ code && code ≤ 0xE01EF)

/-- Characters that no name may hold: controls, blanks, marks of direction and layout, private use
and codes that name no character. -/
def isForbidden (code : Nat) : Bool :=
  (0x80 ≤ code && code ≤ 0xA0) || code == 0xA8 || code == 0xAF || code == 0xB4 || code == 0xB8 ||
    code == 0x1680 || (0x2000 ≤ code && code ≤ 0x200A) || code == 0x200E || code == 0x200F ||
    (0x2028 ≤ code && code ≤ 0x202F) || (0x205F ≤ code && code ≤ 0x2063) ||
    (0x2065 ≤ code && code ≤ 0x206F) || code == 0x3000 || (0xE000 ≤ code && code ≤ 0xF8FF) ||
    (0xFDD0 ≤ code && code ≤ 0xFDEF) || (0xFFF9 ≤ code && code ≤ 0xFFFF) ||
    (0xE0000 ≤ code && code ≤ 0xE00FF) || 0xE01F0 ≤ code || code % 0x10000 ≥ 0xFFFE

/-- The compatible form of a character: lower case, no width variants, one full stop. -/
def fold (character : Char) : Char :=
  let code := character.toNat
  if code < 128 then Ascii.lowerChar character
  else if code = 0x3002 ∨ code = 0xFF0E ∨ code = 0xFF61 then '.'
  else if 0xFF01 ≤ code ∧ code ≤ 0xFF5E then Ascii.lowerChar (Char.ofNat (code - 0xFEE0))
  else if (0xC0 ≤ code ∧ code ≤ 0xDE ∧ code ≠ 0xD7) ∨ (0x391 ≤ code ∧ code ≤ 0x3A9) ∨
      (0x410 ≤ code ∧ code ≤ 0x42F) then Char.ofNat (code + 32)
  else if 0x400 ≤ code ∧ code ≤ 0x40F then Char.ofNat (code + 80)
  else if code = 0xAA then 'a'
  else if code = 0xB9 then '1'
  else if code = 0xB2 then '2'
  else if code = 0xB3 then '3'
  else if code = 0xBA then 'o'
  else character

/-- ASCII characters that would end or divide a host. -/
def isDenied (character : Char) : Bool :=
  character.toNat ≤ 32 || character.toNat = 127 || "%#/:<>?@[\\]^|".toList.contains character

def isCombining (code : Nat) : Bool :=
  (0x300 ≤ code && code ≤ 0x36F) || (0x483 ≤ code && code ≤ 0x489) ||
    (0x591 ≤ code && code ≤ 0x5BD) || (0x610 ≤ code && code ≤ 0x61A) ||
    (0x64B ≤ code && code ≤ 0x65F) || (0x1AB0 ≤ code && code ≤ 0x1AFF) ||
    (0x1DC0 ≤ code && code ≤ 0x1DFF) || (0x20D0 ≤ code && code ≤ 0x20FF) ||
    (0xFE20 ≤ code && code ≤ 0xFE2F)

def isAscii (label : List Char) : Bool :=
  label.all fun character => character.toNat < 128

/-- A label of characters outside ASCII, as decoded or given, is one that a name may have. -/
def isLabel (label : List Char) : Bool :=
  !(label.head?.any fun character => isCombining character.toNat) &&
    label.all fun character =>
      !isForbidden character.toNat && !isIgnored character.toNat && fold character = character &&
        !isDenied character

def encodedMark : List Char := "xn--".toList

def label? (label : List Char) : Option (List Char) :=
  if isAscii label then
    if label.any isDenied then none
    else if label.take 4 = encodedMark then do
      let decoded ← decodeLabel? (label.drop 4)
      if isAscii decoded || !isLabel decoded || encodedMark ++ encodeLabel decoded ≠ label then none
      else pure label
    else some label
  else if isLabel label then some (encodedMark ++ encodeLabel label)
  else none

def toAscii? (octets : Octets) : Option (List Char) := do
  let text ← Octets.utf8? octets
  let folded := (text.toList.filter fun character => !isIgnored character.toNat).map fold
  let labels ← (Ascii.splitAt '.' folded).mapM label?
  pure (Ascii.joinWith ['.'] labels)

end CachingGateway.Domain
