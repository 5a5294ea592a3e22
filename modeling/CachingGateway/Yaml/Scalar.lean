/-
Scalars as they are written. Plain and quoted scalars fold their line ends; a block scalar has its
indentation taken off and its last line ends kept or dropped.
-/

import CachingGateway.Yaml.Cursor

namespace CachingGateway.Yaml

structure Gap where
  spaces : List Char
  broken : Bool
  firstBreak : List Char
  laterBreaks : List Char
  deriving Repr

namespace Gap

def empty : Gap := ⟨[], false, [], []⟩

/-- What a gap puts between its neighbours: a single line end becomes a space, of several the first
is dropped. -/
def text (gap : Gap) : List Char :=
  if gap.broken then
    if gap.firstBreak = ['\n'] then
      if gap.laterBreaks.isEmpty then [' '] else gap.laterBreaks
    else gap.firstBreak ++ gap.laterBreaks
  else gap.spaces

/-- Reads a gap on from one begun. A tab may not stand left of a column at the front of a line. -/
def read? (fuel : Nat) (tabColumn : Int) (cursor : Cursor) (gap : Gap) : Option (Gap × Cursor) :=
  match fuel, cursor.rest with
  | 0, _ => some (gap, cursor)
  | _, [] => some (gap, cursor)
  | less + 1, character :: _ =>
    if isBlank character then
      if gap.broken then
        if character = '\t' && cursor.column < tabColumn then none
        else read? less tabColumn (cursor.skip 1) gap
      else
        read? less tabColumn (cursor.skip 1) { gap with spaces := gap.spaces ++ [character] }
    else if isBreak character then
      let (kept, next) := cursor.readBreak
      if gap.broken then
        read? less tabColumn next { gap with laterBreaks := gap.laterBreaks ++ kept }
      else read? less tabColumn next ⟨[], true, kept, []⟩
    else some (gap, cursor)

end Gap

structure ReadScalar where
  text : List Char
  cursor : Cursor
  broken : Bool

namespace Plain

def isEnd (inFlow : Bool) (character : Char) (rest : List Char) : Bool :=
  isBlank character || isBreak character || (character = ':' && atBlankOrEnd rest) ||
    (inFlow && ",[]\x7b\x7d".toList.contains character)

/-- A colon before another indicator inside a flow collection, which is refused. -/
def isStrayColon (inFlow : Bool) (character : Char) (rest : List Char) : Bool :=
  inFlow && character = ':' && rest.head?.any fun next => ",?[]\x7b\x7d".toList.contains next

def chunk? (inFlow : Bool) : List Char → Option (List Char)
  | [] => some []
  | character :: rest =>
    if isEnd inFlow character rest then some []
    else if isStrayColon inFlow character rest then none
    else (chunk? inFlow rest).map (character :: ·)

def read? (fuel : Nat) (inFlow : Bool) (column : Int) (cursor : Cursor) (text : List Char)
    (gap : Gap) : Option ReadScalar :=
  match fuel with
  | 0 => none
  | less + 1 =>
    if cursor.atDocumentMark || cursor.rest.head? = some '#' then
      some ⟨text, cursor, gap.broken⟩
    else do
      let chunk ← chunk? inFlow cursor.rest
      if chunk.isEmpty then pure ⟨text, cursor, gap.broken⟩
      else
        let joined := text ++ gap.text ++ chunk
        let behind := cursor.skip chunk.length
        if behind.rest.isEmpty || !atBlankOrEnd behind.rest then pure ⟨joined, behind, false⟩
        else do
          let (next, after) ← Gap.read? behind.limit column behind Gap.empty
          if !inFlow && after.column < column then pure ⟨joined, after, next.broken⟩
          else read? less inFlow column after joined next

end Plain

namespace Quoted

inductive Stop where
  | closed
  | gap
  | escapedBreak
  deriving DecidableEq, Repr

def escaped? (letter : Char) : Option Char :=
  match letter with
  | '0' => some (Char.ofNat 0)
  | 'a' => some (Char.ofNat 7)
  | 'b' => some (Char.ofNat 8)
  | 't' => some '\t'
  | '\t' => some '\t'
  | 'n' => some '\n'
  | 'v' => some (Char.ofNat 11)
  | 'f' => some (Char.ofNat 12)
  | 'r' => some '\r'
  | 'e' => some (Char.ofNat 27)
  | ' ' => some ' '
  | '"' => some '"'
  | '/' => some '/'
  | '\\' => some '\\'
  | 'N' => some (Char.ofNat 0x85)
  | '_' => some (Char.ofNat 0xA0)
  | 'L' => some (Char.ofNat 0x2028)
  | 'P' => some (Char.ofNat 0x2029)
  | _ => none

def digitCount? (letter : Char) : Option Nat :=
  if letter = 'x' then some 2 else if letter = 'u' then some 4 else if letter = 'U' then some 8
  else none

def coded? (count : Nat) (text : List Char) : Option Char := do
  let digits := text.take count
  if digits.length < count then none
  else
    let code ← Ascii.number? 16 digits
    if (0xD800 ≤ code ∧ code ≤ 0xDFFF) ∨ 0x10FFFF < code then none else pure (Char.ofNat code)

/-- Reads characters up to a blank, a line end or the closing quote, latest first. -/
def chunk? (fuel : Nat) (single : Bool) (text read : List Char) :
    Option (List Char × List Char × Stop) :=
  match fuel, text with
  | 0, _ => none
  | _, [] => some (read, [], .gap)
  | less + 1, character :: rest =>
    if isBlank character || isBreak character then some (read, text, .gap)
    else if single then
      if character = '\'' then
        if rest.head? = some '\'' then chunk? less single (rest.drop 1) ('\'' :: read)
        else some (read, text, .closed)
      else chunk? less single rest (character :: read)
    else if character = '"' then some (read, text, .closed)
    else if character = '\\' then
      match rest with
      | [] => none
      | letter :: after =>
        if isBreak letter then some (read, rest, .escapedBreak)
        else match digitCount? letter with
          | some count => do
            let decoded ← coded? count after
            chunk? less single (after.drop count) (decoded :: read)
          | none => do
            let decoded ← escaped? letter
            chunk? less single after (decoded :: read)
    else chunk? less single rest (character :: read)

def read? (fuel : Nat) (single : Bool) (cursor : Cursor) (text : List Char) :
    Option ReadScalar :=
  match fuel with
  | 0 => none
  | less + 1 =>
    if cursor.atDocumentMark || cursor.rest.isEmpty then none
    else do
      let (latest, rest, stop) ← chunk? cursor.limit single cursor.rest []
      let joined := text ++ latest.reverse
      let behind := cursor.skip (cursor.rest.length - rest.length)
      match stop with
      | .closed => pure ⟨joined, behind.skip 1, false⟩
      | .gap =>
        let (gap, after) ← Gap.read? behind.limit 0 behind Gap.empty
        read? less single after (joined ++ gap.text)
      | .escapedBreak =>
        let (gap, after) ← Gap.read? behind.limit 0 behind.skipBreak ⟨[], true, [], []⟩
        read? less single after (joined ++ gap.text)

end Quoted

namespace Block

inductive Chomping where
  | strip
  | clip
  | keep
  deriving DecidableEq, Repr

/-- The header of a block scalar: chomping and an indentation, zero if none is given. -/
structure Header where
  chomping : Chomping
  increment : Nat

def chomping? (character : Char) : Option Chomping :=
  if character = '+' then some .keep else if character = '-' then some .strip else none

def increment? (text : List Char) : Option (Nat × List Char) :=
  match text with
  | digit :: rest =>
    if Ascii.isDigit digit then
      if digit = '0' then none else some (digit.toNat - 48, rest)
    else some (0, text)
  | [] => some (0, [])

def header? (text : List Char) : Option (Header × List Char) := do
  match text.head?.bind chomping? with
  | some chomping =>
    let (increment, rest) ← increment? (text.drop 1)
    pure (⟨chomping, increment⟩, rest)
  | none =>
    let (increment, rest) ← increment? text
    if increment = 0 then pure (⟨.clip, 0⟩, rest)
    else match rest.head?.bind chomping? with
      | some chomping => pure (⟨chomping, increment⟩, rest.drop 1)
      | none => pure (⟨.clip, increment⟩, rest)

/-- Passes indentation and empty lines. Without an indentation given, the deepest empty line
counts. -/
def breaks? (fuel : Nat) (indent deepest : Nat) (cursor : Cursor) (kept : List Char) :
    Option (List Char × Nat × Cursor) :=
  match fuel with
  | 0 => none
  | less + 1 =>
    let spaces := (cursor.rest.takeWhile (· = ' ')).length
    let wanted := if indent = 0 then spaces else min spaces (indent - cursor.column)
    let indented := cursor.skip wanted
    let deepest := max deepest indented.column
    if (indent = 0 || indented.column < indent) && indented.rest.head? = some '\t' then none
    else if indented.rest.head?.any isBreak then
      let (line, next) := indented.readBreak
      breaks? less indent deepest next (kept ++ line)
    else some (kept, deepest, indented)

/-- The text of a block scalar so far: its characters, the last line end, and whether the last line
began with a blank. -/
structure Progress where
  text : List Char
  lastBreak : List Char
  emptyLines : List Char
  afterBlank : Bool

def joinLine (isLiteral : Bool) (progress : Progress) (startsBlank : Bool) : List Char :=
  if !isLiteral && progress.lastBreak = ['\n'] && !progress.afterBlank && !startsBlank then
    progress.text ++ (if progress.emptyLines.isEmpty then [' '] else []) ++ progress.emptyLines
  else progress.text ++ progress.lastBreak ++ progress.emptyLines

def lines? (fuel : Nat) (isLiteral : Bool) (indent : Nat) (cursor : Cursor) (progress : Progress) :
    Option (Progress × Cursor) :=
  match fuel with
  | 0 => none
  | less + 1 =>
    if cursor.column = indent && !cursor.rest.isEmpty then do
      let startsBlank := cursor.rest.head?.any isBlank
      let line := cursor.rest.takeWhile fun character => !isBreak character
      let (lastBreak, next) := (cursor.skip line.length).readBreak
      let (emptyLines, _, after) ← breaks? next.limit indent 0 next []
      lines? less isLiteral indent after
        ⟨joinLine isLiteral progress startsBlank ++ line, lastBreak, emptyLines, startsBlank⟩
    else pure (progress, cursor)

def Chomping.finish (chomping : Chomping) (progress : Progress) : List Char :=
  match chomping with
  | .strip => progress.text
  | .clip => progress.text ++ progress.lastBreak
  | .keep => progress.text ++ progress.lastBreak ++ progress.emptyLines

def read? (isLiteral : Bool) (outer : Int) (cursor : Cursor) : Option ReadScalar := do
  let (header, rest) ← header? cursor.rest
  let behind := (cursor.skip (cursor.rest.length - rest.length)).skipToLineEnd
  if !atLineEnd behind.rest then none
  else
    let first := behind.skipBreak
    let given : Nat :=
      if header.increment = 0 then 0 else (max outer 0).toNat + header.increment
    let (emptyLines, deepest, content) ← breaks? first.limit given 0 first []
    let indent := if given = 0 then max (max deepest (outer + 1).toNat) 1 else given
    let (progress, after) ←
      lines? content.limit isLiteral indent content ⟨[], [], emptyLines, false⟩
    pure ⟨header.chomping.finish progress, after, false⟩

end Block

end CachingGateway.Yaml
