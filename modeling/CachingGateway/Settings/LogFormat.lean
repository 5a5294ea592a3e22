/-
The configured layout of log lines.
-/

import CachingGateway.Text.Blank

namespace CachingGateway

inductive LogFormat where
  | json
  | console
  deriving DecidableEq, Repr, Inhabited

namespace LogFormat

def name : LogFormat → String
  | json => "json"
  | console => "console"

def ofName? (name : String) : Option LogFormat :=
  if name = "json" then some json
  else if name = "console" ∨ name = "text" then some console
  else none

def normalized (text : String) : String :=
  String.ofList (Ascii.lower (Blank.trim text.toList))

def parse (text : String) : Except String LogFormat :=
  match ofName? (normalized text) with
  | some format => .ok format
  | none => .error ("unknown log format: " ++ normalized text)

end LogFormat

end CachingGateway
