/-
The tokens of a text. The lexer keeps the columns of open block collections, the depth of flow
collections, and for each depth the last place that may turn out to be a key: a colon behind it
inserts the key before it.
-/

import CachingGateway.Yaml.Scalar
import CachingGateway.Yaml.Tag

namespace CachingGateway.Yaml

/-- A place that may turn out to be a key: the number of tokens before it and where it is. One in
the column of its collection must be a key. -/
structure PendingKey where
  required : Bool
  tokenNumber : Nat
  index : Nat
  line : Nat
  column : Nat
  deriving Repr

structure Lexer where
  cursor : Cursor
  flowDepth : Nat
  /-- The column of the innermost block collection, less than zero outside all. -/
  indent : Int
  outerIndents : List Int
  /-- One place for each depth, the innermost first. -/
  pendingKeys : List (Option PendingKey)
  keyAllowed : Bool
  latest : List Token
  count : Nat

namespace Lexer

def start (text : List Char) : Lexer :=
  { cursor := Cursor.start text, flowDepth := 0, indent := -1, outerIndents := []
    pendingKeys := [none], keyAllowed := true, latest := [], count := 0 }

def inFlow (lexer : Lexer) : Bool :=
  lexer.flowDepth ≠ 0

def emit (lexer : Lexer) (token : Token) : Lexer :=
  { lexer with latest := token :: lexer.latest, count := lexer.count + 1 }

def insertAt (lexer : Lexer) (place : Nat) (token : Token) : Lexer :=
  { lexer with
    latest := lexer.latest.insertIdx (lexer.count - place) token
    count := lexer.count + 1 }

def skip (lexer : Lexer) (count : Nat) : Lexer :=
  { lexer with cursor := lexer.cursor.skip count }

def allowKey (lexer : Lexer) (allowed : Bool) : Lexer :=
  { lexer with keyAllowed := allowed }

/-- A key stays within one line and about a thousand characters. -/
def isStale (cursor : Cursor) (pending : PendingKey) : Bool :=
  pending.line < cursor.line || pending.index + 1024 < cursor.index

/-- Gives up places that can be keys no longer; one that must be a key is a fault. -/
def dropStale? (cursor : Cursor) : List (Option PendingKey) → Option (List (Option PendingKey))
  | [] => some []
  | none :: rest => (dropStale? cursor rest).map (none :: ·)
  | some pending :: rest =>
    if isStale cursor pending then
      if pending.required then none else (dropStale? cursor rest).map (none :: ·)
    else (dropStale? cursor rest).map (some pending :: ·)

def dropKey? (lexer : Lexer) : Option Lexer :=
  match lexer.pendingKeys with
  | some pending :: rest =>
    if pending.required then none else some { lexer with pendingKeys := none :: rest }
  | _ => some lexer

def saveKey? (lexer : Lexer) : Option Lexer :=
  if lexer.keyAllowed then
    let pending : PendingKey :=
      { required := !lexer.inFlow && lexer.indent = lexer.cursor.column
        tokenNumber := lexer.count, index := lexer.cursor.index, line := lexer.cursor.line
        column := lexer.cursor.column }
    lexer.dropKey?.map fun dropped =>
      { dropped with pendingKeys := some pending :: dropped.pendingKeys.drop 1 }
  else some lexer

def rollIndent (lexer : Lexer) (column : Int) (place : Nat) (token : Token) : Lexer :=
  if lexer.inFlow || column ≤ lexer.indent then lexer
  else
    { lexer with indent := column, outerIndents := lexer.indent :: lexer.outerIndents }.insertAt
      place token

def unrollTo (column : Int) (indent : Int) (outer : List Int) (lexer : Lexer) : Lexer :=
  match outer with
  | [] => { lexer with indent := indent, outerIndents := [] }
  | before :: rest =>
    if column < indent then unrollTo column before rest (lexer.emit .blockEnd)
    else { lexer with indent := indent, outerIndents := before :: rest }

def unrollIndent (lexer : Lexer) (column : Int) : Lexer :=
  if lexer.inFlow then lexer else unrollTo column lexer.indent lexer.outerIndents lexer

/-- Passes blanks, comments and line ends. A tab is a blank where no key can begin. -/
def toNextToken (fuel : Nat) (lexer : Lexer) : Lexer :=
  match fuel with
  | 0 => lexer
  | less + 1 =>
    let tabs := lexer.inFlow || !lexer.keyAllowed
    let marked :=
      if lexer.cursor.index = 0 && lexer.cursor.rest.head? = some (Char.ofNat 0xFEFF) then
        lexer.cursor.skip 1
      else lexer.cursor
    let unblanked := marked.skipWhile fun character =>
      character = ' ' || (tabs && character = '\t')
    let uncommented :=
      if unblanked.rest.head? = some '#' then
        unblanked.skipWhile fun character => !isBreak character
      else unblanked
    if uncommented.rest.head?.any isBreak then
      toNextToken less
        { lexer with
          cursor := uncommented.skipBreak
          keyAllowed := lexer.keyAllowed || !lexer.inFlow }
    else { lexer with cursor := uncommented }

def endBlocks? (lexer : Lexer) : Option Lexer :=
  (lexer.unrollIndent (-1)).dropKey?.map fun ended => ended.allowKey false

def readStreamEnd? (lexer : Lexer) : Option Lexer :=
  lexer.endBlocks?.map fun ended => ended.emit .streamEnd

def readDirective? (lexer : Lexer) : Option Lexer := do
  let ended ← lexer.endBlocks?
  let (token, behind) ← Directive.read? (ended.cursor.skip 1)
  pure ({ ended with cursor := behind }.emit token)

def readDocumentMark? (lexer : Lexer) (token : Token) : Option Lexer :=
  lexer.endBlocks?.map fun ended => (ended.skip 3).emit token

def openFlow? (lexer : Lexer) (token : Token) : Option Lexer :=
  lexer.saveKey?.map fun saved =>
    ({ saved with
        flowDepth := saved.flowDepth + 1
        pendingKeys := none :: saved.pendingKeys
        keyAllowed := true }.skip 1).emit token

def closeFlow? (lexer : Lexer) (token : Token) : Option Lexer :=
  lexer.dropKey?.map fun dropped =>
    let left :=
      if dropped.inFlow then
        { dropped with
          flowDepth := dropped.flowDepth - 1, pendingKeys := dropped.pendingKeys.drop 1 }
      else dropped
    ((left.allowKey false).skip 1).emit token

def readFlowEntry? (lexer : Lexer) : Option Lexer :=
  lexer.dropKey?.map fun dropped => ((dropped.allowKey true).skip 1).emit .flowEntry

def openBlock? (lexer : Lexer) (token : Token) : Option Lexer :=
  if lexer.inFlow then some lexer
  else if lexer.keyAllowed then some (lexer.rollIndent lexer.cursor.column lexer.count token)
  else none

def readBlockEntry? (lexer : Lexer) : Option Lexer := do
  let opened ← lexer.openBlock? .blockSequenceStart
  let dropped ← opened.dropKey?
  pure (((dropped.allowKey true).skip 1).emit .blockEntry)

def readKey? (lexer : Lexer) : Option Lexer := do
  let opened ← lexer.openBlock? .blockMappingStart
  let dropped ← opened.dropKey?
  pure (((dropped.allowKey (!dropped.inFlow)).skip 1).emit .key)

def readValue? (lexer : Lexer) : Option Lexer :=
  match lexer.pendingKeys with
  | some pending :: rest =>
    let keyed := lexer.insertAt pending.tokenNumber .key
    let opened := keyed.rollIndent pending.column pending.tokenNumber .blockMappingStart
    some (({ opened with pendingKeys := none :: rest, keyAllowed := false }.skip 1).emit .value)
  | _ =>
    (lexer.openBlock? .blockMappingStart).map fun opened =>
      ((opened.allowKey (!opened.inFlow)).skip 1).emit .value

def readAnchor? (lexer : Lexer) (token : String → Token) : Option Lexer := do
  let saved ← lexer.saveKey?
  let (name, behind) ← anchorName? (saved.cursor.skip 1)
  pure ({ saved with cursor := behind, keyAllowed := false }.emit (token name))

def readTag? (lexer : Lexer) : Option Lexer := do
  let saved ← lexer.saveKey?
  let (written, behind) ← tag? saved.inFlow saved.cursor
  pure ({ saved with cursor := behind, keyAllowed := false }.emit (.tag written))

def emitScalar (lexer : Lexer) (found : ReadScalar) (style : ScalarStyle) : Lexer :=
  { lexer with cursor := found.cursor }.emit (.scalar (String.ofList found.text) style)

def readBlockScalar? (lexer : Lexer) (isLiteral : Bool) : Option Lexer := do
  let dropped ← lexer.dropKey?
  let found ← Block.read? isLiteral dropped.indent (dropped.cursor.skip 1)
  pure ((dropped.allowKey true).emitScalar found (if isLiteral then .literal else .folded))

def readQuoted? (lexer : Lexer) (single : Bool) : Option Lexer := do
  let saved ← lexer.saveKey?
  let found ← Quoted.read? saved.cursor.limit single (saved.cursor.skip 1) []
  pure ((saved.allowKey false).emitScalar found (if single then .singleQuoted else .doubleQuoted))

def readPlain? (lexer : Lexer) : Option Lexer := do
  let saved ← lexer.saveKey?
  let found ← Plain.read? saved.cursor.limit saved.inFlow (saved.indent + 1)
    saved.cursor [] Gap.empty
  pure ((saved.allowKey found.broken).emitScalar found .plain)

def isIndicator (character : Char) : Bool :=
  "-?:,[]\x7b\x7d#&*!|>\x27\"%@\x60".toList.contains character

/-- A plain scalar may begin here. Some indicators begin one when no blank follows. -/
def beginsPlain (inFlow : Bool) (character : Char) (rest : List Char) : Bool :=
  if isBlank character || isBreak character then false
  else if !isIndicator character then true
  else if character = '-' then !(rest.head?.any isBlank)
  else !inFlow && (character = '?' || character = ':') && !atBlankOrEnd rest

def readToken? (lexer : Lexer) (character : Char) (rest : List Char) : Option Lexer :=
  let flow := lexer.inFlow
  if lexer.cursor.column = 0 && character = '%' then lexer.readDirective?
  else if lexer.cursor.atMark '-' then lexer.readDocumentMark? .documentStart
  else if lexer.cursor.atMark '.' then lexer.readDocumentMark? .documentEnd
  else if character = '[' then lexer.openFlow? .flowSequenceStart
  else if character = '{' then lexer.openFlow? .flowMappingStart
  else if character = ']' then lexer.closeFlow? .flowSequenceEnd
  else if character = '}' then lexer.closeFlow? .flowMappingEnd
  else if character = ',' then lexer.readFlowEntry?
  else if character = '-' && atBlankOrEnd rest then lexer.readBlockEntry?
  else if character = '?' && (flow || atBlankOrEnd rest) then lexer.readKey?
  else if character = ':' && (flow || atBlankOrEnd rest) then lexer.readValue?
  else if character = '*' then lexer.readAnchor? .alias
  else if character = '&' then lexer.readAnchor? .anchor
  else if character = '!' then lexer.readTag?
  else if character = '|' && !flow then lexer.readBlockScalar? true
  else if character = '>' && !flow then lexer.readBlockScalar? false
  else if character = '\'' then lexer.readQuoted? true
  else if character = '"' then lexer.readQuoted? false
  else if beginsPlain flow character rest then lexer.readPlain?
  else none

def onFreshLine (cursor : Cursor) : Cursor :=
  if cursor.column = 0 then cursor else { cursor with line := cursor.line + 1, column := 0 }

def run? (fuel : Nat) (lexer : Lexer) : Option (List Token) :=
  match fuel with
  | 0 => none
  | less + 1 => do
    let placed := lexer.toNextToken lexer.cursor.limit
    let pendingKeys ← dropStale? placed.cursor placed.pendingKeys
    let ready := { placed with pendingKeys := pendingKeys }.unrollIndent placed.cursor.column
    match ready.cursor.rest with
    | [] =>
      let ended ← { ready with cursor := onFreshLine ready.cursor }.readStreamEnd?
      pure ended.latest.reverse
    | character :: rest =>
      let next ← ready.readToken? character rest
      run? less next

end Lexer

def Token.scan? (text : String) : Option (List Token) :=
  let characters := text.toList
  if characters.all isAllowed then (Lexer.start characters).run? (characters.length + 2) else none

end CachingGateway.Yaml
