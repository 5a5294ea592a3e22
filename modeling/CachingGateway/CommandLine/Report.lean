/-
What the program prints and returns before it serves: the help, the version, the usage errors of the
command line and the failure to load a configuration.
-/

import CachingGateway.CommandLine.Request
import CachingGateway.Settings.Load

namespace CachingGateway.CommandLine

structure Report where
  code : Nat
  output : List String
  errors : List String
  deriving DecidableEq, Repr

def programName : String := "cache_proxy"

def programVersion : String := "0.1.0"

def helpLines : List String :=
  ["A caching, rate-limiting HTTP reverse proxy with TTL and LRU eviction",
    "",
    "Usage: " ++ programName ++ " [OPTIONS]",
    "",
    "Options:",
    "  -c, --config <CONFIG>  Path to a YAML or JSON config file, overriding PROXY_CONFIG_FILE",
    "  -h, --help             Print help",
    "  -V, --version          Print version"]

def usageLine (named : List Flag) : String :=
  let tail := if named.isEmpty then ["[OPTIONS]"] else named.map Flag.shown
  " ".intercalate (["Usage:", programName] ++ tail)

namespace Misuse

def message : Misuse → String
  | unexpected argument _ _ => "unexpected argument '" ++ argument ++ "' found"
  | unwantedValue value flag _ =>
    "unexpected value '" ++ value ++ "' for '" ++ flag.shown ++
      "' found; no more were expected"
  | missingFile =>
    "a value is required for '" ++ Flag.config.shown ++ "' but none was supplied"
  | repeatedFile => "the argument '" ++ Flag.config.shown ++ "' cannot be used multiple times"

def tip : Misuse → List String
  | unexpected _ (some similar) _ =>
    ["  tip: a similar argument exists: '--" ++ similar.word ++ "'", ""]
  | _ => []

/-- The usage, which a missing value does not bring up. -/
def usage : Misuse → List String
  | unexpected _ _ named => [usageLine named, ""]
  | unwantedValue _ _ named => [usageLine named, ""]
  | missingFile => []
  | repeatedFile => [usageLine [], ""]

def lines (misuse : Misuse) : List String :=
  ("error: " ++ misuse.message).splitOn "\n" ++ [""] ++ misuse.tip ++ misuse.usage ++
    ["For more information, try '--help'."]

end Misuse

def failureLines (summary cause : String) : List String :=
  ["Error: " ++ summary, "", "Caused by:"] ++
    (cause.splitOn "\n").map fun line => "    " ++ line

def failure (summary cause : String) : Report :=
  ⟨1, [], failureLines summary cause⟩

/-- How a start of the program ends: at once with a report, or in serving with settings. -/
inductive Outcome where
  | stopped (report : Report)
  | serving (settings : Settings)
  deriving DecidableEq

def namedFile (arguments : List String) (environment : Environment) : Option String :=
  match Request.ofArguments arguments with
  | .ok (.run file) => Settings.namedFile file environment
  | _ => none

def start (arguments : List String) (environment : Environment) (read : FileReader) : Outcome :=
  match Request.ofArguments arguments with
  | .error misuse => .stopped ⟨2, [], misuse.lines⟩
  | .ok .help => .stopped ⟨0, helpLines, []⟩
  | .ok .version => .stopped ⟨0, [programName ++ " " ++ programVersion], []⟩
  | .ok (.run file) =>
    match Settings.load file environment read with
    | .error error => .stopped (failure "failed to load configuration" error.message)
    | .ok settings => .serving settings

end CachingGateway.CommandLine
