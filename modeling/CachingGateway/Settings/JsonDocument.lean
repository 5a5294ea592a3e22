/-
JSON documents as settings. Sections may be objects or lists of fields in order; a number is never
read from a text nor a text from a number.
-/

import CachingGateway.Json.Reader
import CachingGateway.Settings.Document

namespace CachingGateway.JsonDocument

def member? (member : Option String × Json) : Option (String × Json) :=
  member.1.map fun name => (name, member.2)

def group? : Json → Option (FieldGroup Json)
  | .object members => (members.mapM member?).map FieldGroup.named
  | .list elements => some (.listed elements)
  | _ => none

def text? : Json → Option String
  | .text content => content
  | _ => none

def flag? : Json → Option Bool
  | .bool value => some value
  | _ => none

def natural? (limit : Nat) : Json → Option Nat
  | .number numeral => numeral.natural? limit
  | _ => none

def number? : Json → Option Binary64
  | .number numeral => numeral.binary64?
  | _ => none

def texts? : Json → Option (List String)
  | .list elements => elements.mapM text?
  | _ => none

def choice? : Json → Option String
  | .text content => content
  | .object [(name, .null)] => name
  | _ => none

def format : DocumentFormat Json :=
  { group? := group?
    text? := text?
    flag? := flag?
    natural? := natural?
    number? := number?
    texts? := texts?
    choice? := choice? }

def parse? (text : String) : Option Settings :=
  (Json.parse? text).bind format.settings?

end CachingGateway.JsonDocument
