/-
Names, tags and directives as they are written.
-/

import CachingGateway.Text.Octets
import CachingGateway.Yaml.Cursor
import CachingGateway.Yaml.Token

namespace CachingGateway.Yaml

/-- Reads the name of an anchor or alias behind its indicator. What follows must be a blank or an
indicator. -/
def anchorName? (cursor : Cursor) : Option (String × Cursor) :=
  let name := cursor.rest.takeWhile isNameChar
  let behind := cursor.skip name.length
  let ended := atBlankOrEnd behind.rest ||
    behind.rest.head?.any fun character => "?:,]\x7d%@\x60".toList.contains character
  if name.isEmpty || !ended then none else some (String.ofList name, behind)

namespace TagUri

def width? (octet : Nat) : Option Nat :=
  if octet < 0x80 then some 1
  else if octet / 32 = 6 then some 2
  else if octet / 16 = 14 then some 3
  else if octet / 8 = 30 then some 4
  else none

def octet? : List Char → Option (Nat × List Char)
  | '%' :: high :: low :: rest => do
    let code ← Ascii.number? 16 [high, low]
    pure (code, rest)
  | _ => none

def continuation? : Nat → List Char → Option (Octets × List Char)
  | 0, text => some ([], text)
  | count + 1, text => do
    let (code, rest) ← octet? text
    if code / 64 ≠ 2 then none
    else
      let (octets, after) ← continuation? count rest
      pure (UInt8.ofNat code :: octets, after)

def escaped? (text : List Char) : Option (List Char × List Char) := do
  let (first, rest) ← octet? text
  let width ← width? first
  let (others, after) ← continuation? (width - 1) rest
  let decoded ← Octets.utf8? (UInt8.ofNat first :: others)
  pure (decoded.toList, after)

def isUriChar (whole : Bool) (character : Char) : Bool :=
  isNameChar character || ";/?:@&=+$.%!~*'()".toList.contains character ||
    (whole && ",[]".toList.contains character)

def read? (fuel : Nat) (whole : Bool) (text read : List Char) : Option (List Char × List Char) :=
  match fuel, text with
  | 0, _ => none
  | _, [] => some (read, [])
  | less + 1, character :: rest =>
    if character = '%' then do
      let (decoded, after) ← escaped? text
      read? less whole after (read ++ decoded)
    else if isUriChar whole character then read? less whole rest (read ++ [character])
    else some (read, text)

end TagUri

/-- The handle in front of a tag: an exclamation mark, a name, perhaps another mark. -/
def tagHandle? (text : List Char) : Option (List Char × List Char) :=
  match text with
  | '!' :: rest =>
    let name := rest.takeWhile isNameChar
    match rest.drop name.length with
    | '!' :: after => some ('!' :: (name ++ ['!']), after)
    | after => some ('!' :: name, after)
  | _ => none

def wholeTag? (text : List Char) : Option (WrittenTag × List Char) := do
  let (uri, rest) ← TagUri.read? (text.length + 1) true text []
  match rest with
  | '>' :: after => if uri.isEmpty then none else pure (⟨"", String.ofList uri⟩, after)
  | _ => none

/-- Reads a tag by its handle. A lone mark is a tag of its own. -/
def shortTag? (text : List Char) : Option (WrittenTag × List Char) := do
  let (handle, rest) ← tagHandle? text
  let named := 1 < handle.length && handle.getLast? = some '!'
  if named then
    let (suffix, after) ← TagUri.read? (rest.length + 1) false rest []
    if suffix.isEmpty then none else pure (⟨String.ofList handle, String.ofList suffix⟩, after)
  else
    let (suffix, after) ← TagUri.read? (rest.length + 1) false rest (handle.drop 1)
    if suffix.isEmpty then pure (⟨"", "!"⟩, after) else pure (⟨"!", String.ofList suffix⟩, after)

def tag? (inFlow : Bool) (cursor : Cursor) : Option (WrittenTag × Cursor) := do
  let (written, rest) ← match cursor.rest with
    | '!' :: '<' :: whole => wholeTag? whole
    | text => shortTag? text
  if atBlankOrEnd rest || (inFlow && rest.head? = some ',') then
    pure (written, cursor.skip (cursor.rest.length - rest.length))
  else none

namespace Directive

def number? (text : List Char) : Option (Nat × List Char) :=
  let digits := text.takeWhile Ascii.isDigit
  if 9 < digits.length then none
  else (Ascii.number? 10 digits).map fun value => (value, text.drop digits.length)

def version? (text : List Char) : Option (Token × List Char) := do
  let (major, afterMajor) ← number? (text.dropWhile isBlank)
  match afterMajor with
  | '.' :: rest =>
    let (minor, after) ← number? rest
    pure (.versionDirective major minor, after)
  | _ => none

def tag? (text : List Char) : Option (Token × List Char) := do
  let (handle, afterHandle) ← tagHandle? (text.dropWhile isBlank)
  if handle.length ≠ 1 && handle.getLast? ≠ some '!' then none
  else if !(afterHandle.head?.any isBlank) then none
  else
    let uriText := afterHandle.dropWhile isBlank
    let (uri, rest) ← TagUri.read? (uriText.length + 1) true uriText []
    if uri.isEmpty || !atBlankOrEnd rest then none
    else pure (.tagDirective (String.ofList handle) (String.ofList uri), rest)

def read? (cursor : Cursor) : Option (Token × Cursor) := do
  let name := cursor.rest.takeWhile isNameChar
  let behind := cursor.rest.drop name.length
  if name.isEmpty || !atBlankOrEnd behind then none
  else
    let (token, rest) ←
      if name = "YAML".toList then version? behind
      else if name = "TAG".toList then tag? behind
      else none
    let ended := (cursor.skip (cursor.rest.length - rest.length)).skipToLineEnd
    if atLineEnd ended.rest then pure (token, ended.skipBreak) else none

end Directive

end CachingGateway.Yaml
