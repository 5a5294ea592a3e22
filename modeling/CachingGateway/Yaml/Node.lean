/-
The tree of a document. Each reader takes the tokens of one node and leaves the rest. An anchor is
given a number when its node begins; an alias holds the number of its anchor, and the nodes of
numbers are kept beside the tree. The number is how many names have been anchored before, so a name
anchored anew can share it with the next name, and then the later node counts.
-/

import CachingGateway.Data.Table
import CachingGateway.Yaml.Lexer

namespace CachingGateway.Yaml

inductive Node where
  | scalar (text : String) (style : ScalarStyle) (tag : Option String)
  | sequence (elements : List Node) (tag : Option String)
  | mapping (members : List (Node × Node)) (tag : Option String)
  | alias (number : Nat)
  deriving Inhabited

namespace Node

def absent : Node :=
  .scalar "" .plain none

end Node

/-- A node that an anchor names: its number, how many anchored nodes began before it, and the node.
-/
structure AnchoredNode where
  number : Nat
  order : Nat
  node : Node

structure Composer where
  tokens : List Token
  anchors : Table String Nat
  anchored : List AnchoredNode
  begun : Nat
  handles : List (String × String)

abbrev Composing := StateT Composer Option

namespace Composer

def peek : Composing Token := do
  pure ((← get).tokens.headD .streamEnd)

def skip : Composing Unit :=
  modify fun composer => { composer with tokens := composer.tokens.drop 1 }

def take (token : Token) : Composing Bool := do
  if (← peek) = token then
    skip
    pure true
  else pure false

def refuse {result : Type} : Composing result :=
  fun _ => none

def standardHandles : List (String × String) :=
  [("!", "!"), ("!!", "tag:yaml.org,2002:")]

def resolveTag (written : WrittenTag) : Composing String := do
  if written.handle = "" then pure written.suffix
  else match (← get).handles.find? fun pair => pair.1 = written.handle with
    | some (_, leading) => pure (leading ++ written.suffix)
    | none => refuse

def number (name : String) : Composing (Nat × Nat) := do
  let composer ← get
  let number := composer.anchors.size
  set { composer with
    anchors := composer.anchors.insert name number, begun := composer.begun + 1 }
  pure (number, composer.begun)

def keep (numbered : Option (Nat × Nat)) (node : Node) : Composing Node := do
  match numbered with
  | some (number, order) =>
    modify fun composer =>
      { composer with anchored := ⟨number, order, node⟩ :: composer.anchored }
  | none => pure ()
  pure node

structure Properties where
  anchor : Option String
  tag : Option WrittenTag

def takeAnchor : Composing (Option String) := do
  match ← peek with
  | .anchor name =>
    skip
    pure (some name)
  | _ => pure none

def takeTag : Composing (Option WrittenTag) := do
  match ← peek with
  | .tag written =>
    skip
    pure (some written)
  | _ => pure none

def properties : Composing Properties := do
  match ← takeAnchor with
  | some name => pure ⟨some name, ← takeTag⟩
  | none =>
    match ← takeTag with
    | some written => pure ⟨← takeAnchor, some written⟩
    | none => pure ⟨none, none⟩

def resolveAlias (name : String) : Composing Node := do
  match (← get).anchors.find? name with
  | some number => pure (.alias number)
  | none => refuse

/-- The comma before an element of a flow collection, which the first has not. -/
def divide (first : Bool) : Composing Unit := do
  if first then pure ()
  else if ← take .flowEntry then pure ()
  else refuse

/-- A scalar's tag; a lone mark is no tag. -/
def scalarTag (tag : Option String) : Option String :=
  if tag = some "!" then none else tag

mutual

/-- A node. Block collections begin only where blocks may stand, and a sequence without indentation
only under a key. -/
def node (fuel : Nat) (block unindented : Bool) : Composing Node :=
  match fuel with
  | 0 => refuse
  | less + 1 => do
    match ← peek with
    | .alias name =>
      skip
      resolveAlias name
    | _ =>
      let found ← properties
      let tag ← found.tag.mapM resolveTag
      let numbered ← found.anchor.mapM number
      match ← peek with
      | .scalar text style =>
        skip
        keep numbered (.scalar text style (scalarTag tag))
      | .flowSequenceStart =>
        skip
        keep numbered (.sequence (← flowSequence less true) tag)
      | .flowMappingStart =>
        skip
        keep numbered (.mapping (← flowMapping less true) tag)
      | .blockSequenceStart =>
        if block then
          skip
          keep numbered (.sequence (← blockSequence less) tag)
        else bare numbered found tag
      | .blockMappingStart =>
        if block then
          skip
          keep numbered (.mapping (← blockMapping less) tag)
        else bare numbered found tag
      | .blockEntry =>
        if unindented then keep numbered (.sequence (← unindentedSequence less) tag)
        else bare numbered found tag
      | _ => bare numbered found tag

/-- An anchor or tag with nothing behind it stands before an absent node. -/
def bare (numbered : Option (Nat × Nat)) (found : Properties) (tag : Option String) :
    Composing Node :=
  if found.anchor.isSome || found.tag.isSome then keep numbered (.scalar "" .plain tag) else refuse

def nodeUnless (fuel : Nat) (block unindented : Bool) (ends : List Token) : Composing Node :=
  match fuel with
  | 0 => refuse
  | less + 1 => do
    if ends.contains (← peek) then pure Node.absent else node less block unindented

def blockSequence (fuel : Nat) : Composing (List Node) :=
  match fuel with
  | 0 => refuse
  | less + 1 => do
    if ← take .blockEntry then
      let element ← nodeUnless less true false [.blockEntry, .blockEnd]
      pure (element :: (← blockSequence less))
    else if ← take .blockEnd then pure []
    else refuse

def unindentedSequence (fuel : Nat) : Composing (List Node) :=
  match fuel with
  | 0 => refuse
  | less + 1 => do
    if ← take .blockEntry then
      let element ← nodeUnless less true false [.blockEntry, .key, .value, .blockEnd]
      pure (element :: (← unindentedSequence less))
    else pure []

def blockMapping (fuel : Nat) : Composing (List (Node × Node)) :=
  match fuel with
  | 0 => refuse
  | less + 1 => do
    if ← take .key then
      let key ← nodeUnless less true true [.key, .value, .blockEnd]
      let value ← blockValue less
      pure ((key, value) :: (← blockMapping less))
    else if ← take .blockEnd then pure []
    else refuse

def blockValue (fuel : Nat) : Composing Node :=
  match fuel with
  | 0 => refuse
  | less + 1 => do
    if ← take .value then nodeUnless less true true [.key, .value, .blockEnd]
    else pure Node.absent

def flowSequence (fuel : Nat) (first : Bool) : Composing (List Node) :=
  match fuel with
  | 0 => refuse
  | less + 1 => do
    if ← take .flowSequenceEnd then pure []
    else
      divide first
      if ← take .flowSequenceEnd then pure []
      else if ← take .key then
        let pair ← flowPair less
        pure (.mapping [pair] none :: (← flowSequence less false))
      else
        let element ← node less false false
        pure (element :: (← flowSequence less false))

/-- A single pair inside a flow sequence. A key that is left out takes the next token with it. -/
def flowPair (fuel : Nat) : Composing (Node × Node) :=
  match fuel with
  | 0 => refuse
  | less + 1 => do
    let key ←
      if [Token.value, .flowEntry, .flowSequenceEnd].contains (← peek) then
        skip
        pure Node.absent
      else node less false false
    if ← take .value then
      pure (key, ← nodeUnless less false false [.flowEntry, .flowSequenceEnd])
    else pure (key, Node.absent)

def flowMapping (fuel : Nat) (first : Bool) : Composing (List (Node × Node)) :=
  match fuel with
  | 0 => refuse
  | less + 1 => do
    if ← take .flowMappingEnd then pure []
    else
      divide first
      if ← take .flowMappingEnd then pure []
      else if ← take .key then
        let key ← nodeUnless less false false [.value, .flowEntry, .flowMappingEnd]
        let value ← flowValue less
        pure ((key, value) :: (← flowMapping less false))
      else
        let key ← node less false false
        pure ((key, Node.absent) :: (← flowMapping less false))

def flowValue (fuel : Nat) : Composing Node :=
  match fuel with
  | 0 => refuse
  | less + 1 => do
    if ← take .value then nodeUnless less false false [.flowEntry, .flowMappingEnd]
    else pure Node.absent

end

/-- Takes in one directive. A version is given once and is one of two; a handle is given once. -/
def directive (versioned : Bool) (given : List (String × String)) (token : Token) :
    Option (Bool × List (String × String)) :=
  match token with
  | .versionDirective major minor =>
    if versioned || major ≠ 1 || (minor ≠ 1 && minor ≠ 2) then none else some (true, given)
  | .tagDirective handle uri =>
    if given.any fun pair => pair.1 = handle then none
    else some (versioned, given ++ [(handle, uri)])
  | _ => none

def isDirective : Token → Bool
  | .versionDirective _ _ => true
  | .tagDirective _ _ => true
  | _ => false

def directives : Composing Unit := do
  let composer ← get
  let ahead := composer.tokens.takeWhile isDirective
  match ahead.foldlM (fun (versioned, given) token => directive versioned given token) (false, []) with
  | some (_, given) =>
    set { composer with
      tokens := composer.tokens.drop ahead.length, handles := given ++ standardHandles }
  | none => refuse

def beginsContent : Token → Bool
  | .versionDirective _ _ => false
  | .tagDirective _ _ => false
  | .documentStart => false
  | .documentEnd => false
  | .streamEnd => false
  | _ => true

def document (fuel : Nat) : Composing (Option Node) := do
  match ← peek with
  | .streamEnd => pure none
  | token =>
    let explicit := isDirective token || token = .documentStart
    let root ←
      if explicit then
        directives
        if ← take .documentStart then
          if beginsContent (← peek) then node fuel true false else pure Node.absent
        else refuse
      else node fuel true false
    modify fun composer => { composer with tokens := composer.tokens.dropWhile (· = .documentEnd) }
    if (← peek) = .streamEnd then pure (some root) else refuse

end Composer

/-- A document: its tree, if there is any, and the nodes of its anchors. -/
structure Document where
  root : Option Node
  anchored : List AnchoredNode

namespace Document

def parse? (text : String) : Option Document := do
  let tokens ← Token.scan? text
  let start : Composer := ⟨tokens, Table.empty, [], 0, Composer.standardHandles⟩
  let (root, composer) ← (Composer.document (4 * tokens.length + 8)).run start
  pure ⟨root, composer.anchored⟩

/-- The node of a number: of those that share it, the one that began last. -/
def target? (document : Document) (number : Nat) : Option Node :=
  let sharing := document.anchored.filter fun anchored => anchored.number = number
  (sharing.foldl (fun (latest : Option AnchoredNode) candidate =>
    match latest with
    | some found => if found.order < candidate.order then some candidate else latest
    | none => some candidate) none).map AnchoredNode.node

def resolve (document : Document) : Node → Node
  | .alias number => (document.target? number).getD Node.absent
  | other => other

end Document

end CachingGateway.Yaml
