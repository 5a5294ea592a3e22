/-
A place in the text of a document: the characters ahead, and how many characters, lines and columns
lie behind. A carriage return with a line feed is one line end.
-/

import CachingGateway.Text.Ascii

namespace CachingGateway.Yaml

def isAllowed (character : Char) : Bool :=
  let code := character.toNat
  code == 9 || code == 10 || code == 13 || (0x20 ≤ code && code ≤ 0x7E) || code == 0x85 ||
    (0xA0 ≤ code && code ≤ 0xFFFD) || 0x10000 ≤ code

def isBreak (character : Char) : Bool :=
  character = '\n' || character = '\r' || character.toNat = 0x85 || character.toNat = 0x2028 ||
    character.toNat = 0x2029

def isBlank (character : Char) : Bool :=
  character = ' ' || character = '\t'

def isNameChar (character : Char) : Bool :=
  Ascii.isAlphanumeric character || character = '_' || character = '-'

def atBlankOrEnd : List Char → Bool
  | [] => true
  | character :: _ => isBlank character || isBreak character

def atLineEnd : List Char → Bool
  | [] => true
  | character :: _ => isBreak character

def keptBreak (character : Char) : Char :=
  if character.toNat = 0x2028 ∨ character.toNat = 0x2029 then character else '\n'

structure Cursor where
  rest : List Char
  index : Nat
  line : Nat
  column : Nat
  /-- More than the characters ahead, so that no reader takes more steps than this. -/
  limit : Nat
  deriving Repr

namespace Cursor

def start (text : List Char) : Cursor :=
  ⟨text, 0, 0, 0, text.length + 1⟩

/-- Passes characters of one line. -/
def skip (cursor : Cursor) (count : Nat) : Cursor :=
  { cursor with
    rest := cursor.rest.drop count, index := cursor.index + count, column := cursor.column + count }

def readBreak (cursor : Cursor) : List Char × Cursor :=
  match cursor.rest with
  | '\r' :: '\n' :: rest => (['\n'], ⟨rest, cursor.index + 2, cursor.line + 1, 0, cursor.limit⟩)
  | character :: rest =>
    if isBreak character then
      ([keptBreak character], ⟨rest, cursor.index + 1, cursor.line + 1, 0, cursor.limit⟩)
    else ([], cursor)
  | [] => ([], cursor)

def skipBreak (cursor : Cursor) : Cursor :=
  cursor.readBreak.2

def skipWhile (cursor : Cursor) (belongs : Char → Bool) : Cursor :=
  cursor.skip (cursor.rest.takeWhile belongs).length

def skipToLineEnd (cursor : Cursor) : Cursor :=
  let behind := cursor.skipWhile isBlank
  if behind.rest.head? = some '#' then behind.skipWhile fun character => !isBreak character
  else behind

/-- A mark of three characters at the start of a line, alone or before a blank. -/
def atMark (cursor : Cursor) (mark : Char) : Bool :=
  cursor.column = 0 && cursor.rest.take 3 = [mark, mark, mark] && atBlankOrEnd (cursor.rest.drop 3)

def atDocumentMark (cursor : Cursor) : Bool :=
  cursor.atMark '-' || cursor.atMark '.'

end Cursor

end CachingGateway.Yaml
