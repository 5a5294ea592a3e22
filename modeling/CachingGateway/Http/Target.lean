/-
Request targets: a path with an optional query, an authority alone, or a scheme with an authority
and a path. The reader admits what a request line admits, which is wider than the URI grammar: raw
quotes, braces and characters above ASCII may stand in a path. A fragment is dropped.
-/

import CachingGateway.Text.Octets

namespace CachingGateway

/-- The parts of a request target. A target without a scheme and path has an empty path. -/
structure Target where
  scheme : Option String
  authority : String
  path : String
  query : Option String
  deriving DecidableEq, Repr

namespace Target

def lengthLimit : Nat := 65534

def schemeLimit : Nat := 64

def isSchemeChar (character : Char) : Bool :=
  Ascii.isAlphanumeric character || character = '+' || character = '-' || character = '.'

def isPathChar (character : Char) : Bool :=
  let code := character.toNat
  code == 0x21 || code == 0x22 || (0x24 ≤ code && code ≤ 0x3B) || code == 0x3D ||
    (0x40 ≤ code && code ≤ 0x5F) || (0x61 ≤ code && code ≤ 0x7E) || 0x7F ≤ code

def isQueryChar (character : Char) : Bool :=
  let code := character.toNat
  code == 0x21 || (0x24 ≤ code && code ≤ 0x3B) || code == 0x3D || 0x3F ≤ code

def isAuthorityChar (character : Char) : Bool :=
  Ascii.isAlphanumeric character || "!$&'()*+,-.:;=@[]_~".toList.contains character

def endsAuthority (character : Char) : Bool :=
  character = '/' || character = '?' || character = '#'

/-- Progress through an authority: colons and percent signs since the last place that forgives them,
brackets seen, and whether the last character was an at sign. -/
structure AuthorityScan where
  colons : Nat
  opened : Bool
  closed : Bool
  percent : Bool
  endsWithAt : Bool

def AuthorityScan.step? (scan : AuthorityScan) (character : Char) : Option AuthorityScan :=
  let scan := { scan with endsWithAt := false }
  if character = ':' then
    if 8 ≤ scan.colons then none else some { scan with colons := scan.colons + 1 }
  else if character = '[' then
    if scan.percent || scan.opened then none else some { scan with opened := true }
  else if character = ']' then
    if !scan.opened || scan.closed then none
    else some { scan with closed := true, colons := 0, percent := false }
  else if character = '@' then
    some { scan with colons := 0, percent := false, endsWithAt := true }
  else if character = '%' then some { scan with percent := true }
  else if isAuthorityChar character then some scan
  else none

/-- An authority is well-formed: brackets in pairs, at most one colon outside them and behind user
information, no percent sign in the host and a host behind an at sign. -/
def isAuthority (text : List Char) : Bool :=
  match text.foldlM AuthorityScan.step? ⟨0, false, false, false, false⟩ with
  | some scan =>
    scan.opened == scan.closed && scan.colons ≤ 1 && !scan.endsWithAt && !scan.percent
  | none => false

/-- The scheme in front of `://` and the text behind that mark. A scheme that is too long is refused
rather than passed over. -/
def scheme? (text : List Char) : Option (Option (List Char) × List Char) :=
  let name := text.takeWhile isSchemeChar
  match text.drop name.length with
  | ':' :: '/' :: '/' :: rest =>
    let lowered := Ascii.lower name
    if lowered = "http".toList || lowered = "https".toList then some (some lowered, rest)
    else if schemeLimit < name.length then none
    else some (some name, rest)
  | _ => some (none, text)

def pathAndQuery? (text : List Char) : Option (List Char × Option (List Char)) :=
  let kept := text.takeWhile (· ≠ '#')
  let path := kept.takeWhile (· ≠ '?')
  if !path.all isPathChar then none
  else match kept.drop path.length with
    | [] => some (path, none)
    | _ :: query => if query.all isQueryChar then some (path, some query) else none

def ofPath? (text : List Char) : Option Target :=
  (pathAndQuery? text).map fun parts =>
    ⟨none, "", String.ofList parts.1, parts.2.map String.ofList⟩

def ofFull? (text : List Char) : Option Target := do
  let (scheme, rest) ← scheme? text
  let authority := rest.takeWhile fun character => !endsAuthority character
  let behind := rest.drop authority.length
  if !isAuthority authority then none
  else match scheme with
    | none =>
      if behind.isEmpty then some ⟨none, String.ofList authority, "", none⟩ else none
    | some name =>
      if authority.isEmpty then none
      else do
        let (path, query) ← pathAndQuery? behind
        let shown := if path.isEmpty then ['/'] else path
        pure ⟨some (String.ofList name), String.ofList authority, String.ofList shown,
          query.map String.ofList⟩

def ofText? (text : String) : Option Target :=
  if lengthLimit < text.utf8ByteSize then none
  else match text.toList with
    | [] => none
    | ['*'] => some ⟨none, "", "*", none⟩
    | '/' :: rest => ofPath? ('/' :: rest)
    | other => ofFull? other

def text (target : Target) : String :=
  let scheme := match target.scheme with
    | some name => name ++ "://"
    | none => ""
  let query := match target.query with
    | some content => "?" ++ content
    | none => ""
  scheme ++ target.authority ++ target.path ++ query

end Target

end CachingGateway
