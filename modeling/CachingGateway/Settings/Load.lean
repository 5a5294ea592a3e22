/-
Loading settings: a file if one is named, then the environment over it, then the check. The name of
the file comes from the caller or else from a variable.
-/

import CachingGateway.Gateway.Error
import CachingGateway.Settings.JsonDocument
import CachingGateway.Settings.Override
import CachingGateway.Settings.Validity
import CachingGateway.Settings.YamlDocument

namespace CachingGateway

/-- How files are read: bytes, or the text of the system's refusal. -/
abbrev FileReader := String → Except String Octets

namespace Settings

def fileName? (path : List Char) : Option (List Char) :=
  let parts := (Ascii.splitAt '/' path).filter fun part => !part.isEmpty && part ≠ ['.']
  parts.getLast?.filter fun name => name ≠ "..".toList

/-- The extension of the file that a path names. A point at the front of a name begins none. -/
def extension? (path : List Char) : Option (List Char) := do
  let name ← fileName? path
  let (front, extension) ← Ascii.splitLast? '.' name
  if front.isEmpty then none else pure extension

def isJsonPath (path : String) : Bool :=
  (extension? path.toList).any fun extension => Ascii.sameIgnoringCase extension "json".toList

def ofDocument? (json : Bool) (text : String) : Option Settings :=
  if json then JsonDocument.parse? text else YamlDocument.parse? text

def ofFile (read : FileReader) (path : String) : Except GatewayError Settings :=
  let refused (reason : String) : Except GatewayError Settings :=
    .error (.configuration ("failed to read " ++ path ++ ": " ++ reason))
  match read path with
  | .error reason => refused reason
  | .ok content =>
    match Octets.utf8? content with
    | none => refused "stream did not contain valid UTF-8"
    | some text =>
      match ofDocument? (isJsonPath path) text with
      | some settings => .ok settings
      | none => .error (.configuration ("failed to parse " ++ path))

def namedFile (path : Option String) (environment : Environment) : Option String :=
  path.or (environment.text? "PROXY_CONFIG_FILE")

def load (path : Option String) (environment : Environment) (read : FileReader) :
    Except GatewayError Settings := do
  let base ← match namedFile path environment with
    | some file => ofFile read file
    | none => .ok Settings.default
  let settings := base.override environment
  match settings.fault? with
  | some fault => .error (.configuration fault.message)
  | none => .ok settings

end Settings

end CachingGateway
