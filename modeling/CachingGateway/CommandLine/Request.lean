/-
What a command line asks for: to run with a configuration file or without one, or to print the help
or the version. A value of the file flag is looked at only when the next known flag or the end of
the line is reached, so a mistake after it is reported before a fault of the value itself.
-/

import CachingGateway.CommandLine.Flag
import CachingGateway.Text.Ascii

namespace CachingGateway.CommandLine

inductive Request where
  | run (file : Option String)
  | help
  | version
  deriving DecidableEq, Repr

/-- What is wrong with a command line. The flags named are those that its usage line repeats. -/
inductive Misuse where
  | unexpected (argument : String) (similar : Option Flag) (named : List Flag)
  | unwantedValue (value : String) (flag : Flag) (named : List Flag)
  | missingFile
  | repeatedFile
  deriving DecidableEq, Repr

/-- A file flag whose value has not been looked at: the value is still to come or is there. -/
inductive Pending where
  | nothing
  | awaited
  | supplied (value : String)
  deriving DecidableEq, Repr

structure Progress where
  file : Option String
  pending : Pending
  deriving DecidableEq, Repr

namespace Progress

def start : Progress := ⟨none, .nothing⟩

def supply (progress : Progress) (value : String) : Except Misuse Progress :=
  if progress.file.isSome then .error .repeatedFile
  else if value.isEmpty then .error .missingFile
  else .ok ⟨some value, .nothing⟩

def settle (progress : Progress) : Except Misuse Progress :=
  match progress.pending with
  | .nothing => .ok progress
  | .awaited => .error .missingFile
  | .supplied value => supply { progress with pending := .nothing } value

/-- The flags that count as used when a mistake ends the reading. A second file takes the first one
back. -/
def named (progress : Progress) : List Flag :=
  let fileNamed := match progress.pending with
    | .supplied _ => progress.file.isNone
    | .nothing | .awaited => progress.file.isSome
  if fileNamed then [.config] else []

def unknownWord (progress : Progress) (word : List Char) : Misuse :=
  let similar := Flag.nearest? word
  let named := progress.named
  .unexpected (String.ofList ('-' :: '-' :: word)) similar
    (named ++ similar.toList.filter fun flag => !named.contains flag)

end Progress

inductive Step where
  | onward (progress : Progress)
  | finished (request : Request)
  deriving DecidableEq, Repr

def Progress.follow (progress : Progress) (flag : Flag) (value : Option String) :
    Except Misuse Step := do
  let settled ← progress.settle
  match flag, value with
  | .config, some value => .onward <$> settled.supply value
  | .config, none => pure (.onward { settled with pending := .awaited })
  | .help, _ => pure (.finished .help)
  | .version, _ => pure (.finished .version)

def Progress.readLong (progress : Progress) (text : List Char) : Except Misuse Step :=
  let (word, value) := match Ascii.splitOnce? '=' text with
    | some (word, value) => (word, some (String.ofList value))
    | none => (text, none)
  match Flag.ofWord? word, value with
  | none, _ => .error (progress.unknownWord word)
  | some .config, value => progress.follow .config value
  | some flag, none => progress.follow flag none
  | some flag, some value =>
    let named : List Flag := if progress.file.isSome then [.config] else []
    .error (.unwantedValue value flag (named ++ [flag]))

/-- Reads the letters that follow one dash. The file flag takes the letters after it as its value,
without an equals sign at their front; the other flags end the reading. -/
def Progress.readShort (progress : Progress) (letter : Char) (rest : List Char) :
    Except Misuse Step :=
  match Flag.ofLetter? letter with
  | none => .error (.unexpected (String.ofList ['-', letter]) none [])
  | some .config =>
    match rest with
    | [] => progress.follow .config none
    | '=' :: value => progress.follow .config (some (String.ofList value))
    | value => progress.follow .config (some (String.ofList value))
  | some flag => progress.follow flag none

def Progress.readPlain (progress : Progress) (argument : String) : Except Misuse Step :=
  match progress.pending with
  | .awaited => .ok (.onward { progress with pending := .supplied argument })
  | .nothing | .supplied _ => .error (.unexpected argument none [])

namespace Request

/-- Reads the rest of a command line. Behind two bare dashes nothing is a flag, and nothing is
expected there. -/
def readFrom (progress : Progress) : List String → Except Misuse Request
  | [] => progress.settle.map fun settled => .run settled.file
  | argument :: rest =>
    let onward (step : Except Misuse Step) : Except Misuse Request :=
      match step with
      | .error misuse => .error misuse
      | .ok (.finished request) => .ok request
      | .ok (.onward next) => readFrom next rest
    match argument.toList with
    | ['-', '-'] =>
      match rest with
      | [] => progress.settle.map fun settled => .run settled.file
      | first :: _ => .error (.unexpected first none [])
    | '-' :: '-' :: text => onward (progress.readLong text)
    | '-' :: letter :: letters => onward (progress.readShort letter letters)
    | _ => onward (progress.readPlain argument)

def ofArguments (arguments : List String) : Except Misuse Request :=
  readFrom .start arguments

end Request

end CachingGateway.CommandLine
