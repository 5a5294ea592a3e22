/-
JSON string literals. Writing escapes the quote, the backslash and control characters; reading
accepts every escape of the format and joins surrogate pairs.
-/

import CachingGateway.Text.Ascii

namespace CachingGateway.Json.Quoted

def fourDigits (code : Nat) : List Char :=
  [Ascii.hexDigit (code / 4096 % 16), Ascii.hexDigit (code / 256 % 16),
    Ascii.hexDigit (code / 16 % 16), Ascii.hexDigit (code % 16)]

def encodeChar (character : Char) : List Char :=
  if character = '"' then ['\\', '"']
  else if character = '\\' then ['\\', '\\']
  else if character = '\n' then ['\\', 'n']
  else if character = '\r' then ['\\', 'r']
  else if character = '\t' then ['\\', 't']
  else if character.toNat = 8 then ['\\', 'b']
  else if character.toNat = 12 then ['\\', 'f']
  else if character.toNat < 32 then '\\' :: 'u' :: fourDigits character.toNat
  else [character]

def encode (text : List Char) : List Char :=
  text.flatMap encodeChar

def quote (text : List Char) : List Char :=
  '"' :: (encode text ++ ['"'])

/-- One unit of a literal as read: a character, or a half of a surrogate pair. -/
inductive Unit where
  | character (value : Char)
  | half (code : Nat)
  deriving DecidableEq, Repr

def escaped? (letter : Char) : Option Char :=
  if letter = '"' ∨ letter = '\\' ∨ letter = '/' then some letter
  else if letter = 'b' then some (Char.ofNat 8)
  else if letter = 'f' then some (Char.ofNat 12)
  else if letter = 'n' then some '\n'
  else if letter = 'r' then some '\r'
  else if letter = 't' then some '\t'
  else none

def isHighHalf (code : Nat) : Bool := 0xD800 ≤ code && code < 0xDC00
def isLowHalf (code : Nat) : Bool := 0xDC00 ≤ code && code < 0xE000

def units? : List Char → Option (List Unit × List Char)
  | [] => none
  | '"' :: rest => some ([], rest)
  | '\\' :: 'u' :: a :: b :: c :: d :: rest => do
    let code ← Ascii.number? 16 [a, b, c, d]
    let (units, after) ← units? rest
    let unit := if isHighHalf code || isLowHalf code then .half code else .character (Char.ofNat code)
    pure (unit :: units, after)
  | '\\' :: letter :: rest => do
    let character ← escaped? letter
    let (units, after) ← units? rest
    pure (.character character :: units, after)
  | character :: rest =>
    if character = '\\' ∨ character.toNat < 32 then none
    else do
      let (units, after) ← units? rest
      pure (.character character :: units, after)

/-- Joins surrogate pairs; a half without its other half has no text. -/
def join? : List Unit → Option (List Char)
  | [] => some []
  | .character value :: rest => (join? rest).map (value :: ·)
  | .half high :: .half low :: rest =>
    if isHighHalf high && isLowHalf low then
      (join? rest).map (Char.ofNat (0x10000 + (high - 0xD800) * 1024 + (low - 0xDC00)) :: ·)
    else none
  | .half _ :: _ => none

end CachingGateway.Json.Quoted
