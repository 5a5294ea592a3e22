/-
YAML documents as settings. Any scalar is a text; numbers and switches are plain, or literal blocks
with their tag. An empty document is the default and an empty plain scalar an empty section or list.
-/

import CachingGateway.Number.Decimal
import CachingGateway.Settings.Document
import CachingGateway.Yaml.Node

namespace CachingGateway.YamlDocument

open Yaml

def flagTag : String := "tag:yaml.org,2002:bool"
def integerTag : String := "tag:yaml.org,2002:int"
def fractionTag : String := "tag:yaml.org,2002:float"

def typedText? (document : Document) (tag : String) (node : Node) : Option (List Char) :=
  match document.resolve node with
  | .scalar text .plain _ => some text.toList
  | .scalar text .literal (some given) => if given = tag then some text.toList else none
  | _ => none

def text? (document : Document) (node : Node) : Option String :=
  match document.resolve node with
  | .scalar text _ _ => some text
  | _ => none

/-- A plain scalar without a character, which stands for nothing given. -/
def isEmptyScalar : Node → Bool
  | .scalar text .plain _ => text.isEmpty
  | _ => false

def member? (document : Document) (member : Node × Node) : Option (String × Node) :=
  (text? document member.1).map fun name => (name, member.2)

def group? (document : Document) (node : Node) : Option (FieldGroup Node) :=
  match document.resolve node with
  | .mapping members _ => (members.mapM (member? document)).map FieldGroup.named
  | other => if isEmptyScalar other then some (.named []) else none

def flag? (document : Document) (node : Node) : Option Bool :=
  (typedText? document flagTag node).bind fun text =>
    if ["true", "True", "TRUE"].any (·.toList = text) then some true
    else if ["false", "False", "FALSE"].any (·.toList = text) then some false
    else none

/-- Digits that begin with a zero are no number. -/
def isPaddedZero (text : List Char) : Bool :=
  let digits := match text with
    | '-' :: rest => rest
    | '+' :: rest => rest
    | all => all
  1 < digits.length && digits.head? = some '0' && digits.all Ascii.isDigit

def integer? (text : List Char) : Option Nat :=
  let unsigned := match text with
    | '+' :: rest => rest
    | all => all
  let marked := match unsigned with
    | '0' :: 'x' :: digits => Ascii.number? 16 digits
    | '0' :: 'o' :: digits => Ascii.number? 8 digits
    | '0' :: 'b' :: digits => Ascii.number? 2 digits
    | _ => none
  match marked with
  | some value => some value
  | none => if isPaddedZero text then none else Ascii.number? 10 unsigned

def natural? (document : Document) (limit : Nat) (node : Node) : Option Nat :=
  ((typedText? document integerTag node).bind integer?).filter (· ≤ limit)

def fraction? (text : List Char) : Option Binary64 :=
  let unsigned := match text with
    | '+' :: rest => rest
    | all => all
  let doubled := text.head? = some '+' &&
    (unsigned.head? = some '+' || unsigned.head? = some '-')
  let is (words : List String) (spelled : List Char) : Bool := words.any (·.toList = spelled)
  if doubled then none
  else if is [".inf", ".Inf", ".INF"] unsigned then some (.infinite false)
  else if is ["-.inf", "-.Inf", "-.INF"] text then some (.infinite true)
  else if is [".nan", ".NaN", ".NAN"] text then some .nan
  else (Decimal.binary64? unsigned).filter Binary64.isFinite

def number? (document : Document) (node : Node) : Option Binary64 :=
  (typedText? document fractionTag node).bind fraction?

def texts? (document : Document) (node : Node) : Option (List String) :=
  match document.resolve node with
  | .sequence elements _ => elements.mapM (text? document)
  | other => if isEmptyScalar other then some [] else none

def isNull (text : String) : Bool :=
  ["", "~", "null", "Null", "NULL"].contains text

def localTag? (tag : Option String) : Option String :=
  tag.bind fun given =>
    match given.toList with
    | '!' :: name => some (String.ofList name)
    | _ => none

/-- A choice by its name, or by a tag of that name on nothing. -/
def choice? (document : Document) (node : Node) : Option String :=
  match document.resolve node with
  | .scalar text style tag =>
    match localTag? tag with
    | some name => if style = .plain && isNull text then some name else none
    | none => some text
  | _ => none

def format (document : Document) : DocumentFormat Node :=
  { group? := group? document
    text? := text? document
    flag? := flag? document
    natural? := natural? document
    number? := number? document
    texts? := texts? document
    choice? := choice? document }

def parse? (text : String) : Option Settings := do
  let document ← Document.parse? text
  match document.root with
  | none => pure Settings.default
  | some root => (format document).settings? root

end CachingGateway.YamlDocument
