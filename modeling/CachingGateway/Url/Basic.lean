/-
URLs. A URL is a scheme and, for most schemes, an authority with a path; a scheme may also be
followed by an opaque path. Schemes that name a network host accept backslashes for slashes and
always have a host; the reader removes tabs and line ends and resolves dot segments.
-/

import CachingGateway.Network.Address
import CachingGateway.Url.Domain
import CachingGateway.Url.Percent

namespace CachingGateway

inductive UrlError where
  | relativeWithoutBase
  | emptyHost
  | invalidPortNumber
  | invalidIpv4
  | invalidIpv6
  | invalidDomain
  | invalidDomainCharacter
  deriving DecidableEq, Repr

def UrlError.message : UrlError → String
  | relativeWithoutBase => "relative URL without a base"
  | emptyHost => "empty host"
  | invalidPortNumber => "invalid port number"
  | invalidIpv4 => "invalid IPv4 address"
  | invalidIpv6 => "invalid IPv6 address"
  | invalidDomain => "invalid international domain name"
  | invalidDomainCharacter => "invalid domain character"

inductive Host where
  | domain (name : String)
  | four (address : Nat)
  | six (groups : List Nat)
  deriving DecidableEq, Repr

def Host.text : Host → List Char
  | domain name => name.toList
  | four address => Address.fourText address
  | six groups => '[' :: (Address.sixText groups ++ [']'])

/-- The path of a URL: opaque text, or text that begins with a slash or is empty. -/
inductive UrlPath where
  | opaqueText (text : String)
  | segments (text : String)
  deriving DecidableEq, Repr

def UrlPath.text : UrlPath → String
  | .opaqueText text => text
  | .segments text => text

structure Url where
  scheme : String
  username : String
  password : Option String
  host : Option Host
  portNumber : Option Nat
  path : UrlPath
  query : Option String
  fragment : Option String
  deriving DecidableEq, Repr

namespace Url

inductive SchemeKind where
  | file
  | network
  | other
  deriving DecidableEq, Repr

def schemeKind (scheme : String) : SchemeKind :=
  if scheme = "file" then .file
  else if scheme = "http" ∨ scheme = "https" ∨ scheme = "ws" ∨ scheme = "wss" ∨ scheme = "ftp" then
    .network
  else .other

def SchemeKind.isSpecial : SchemeKind → Bool
  | file => true
  | network => true
  | other => false

def impliedPortNumber (scheme : String) : Option Nat :=
  if scheme = "http" ∨ scheme = "ws" then some 80
  else if scheme = "https" ∨ scheme = "wss" then some 443
  else if scheme = "ftp" then some 21
  else none

def isSlash (kind : SchemeKind) (character : Char) : Bool :=
  character = '/' || (kind.isSpecial && character = '\\')

def endsAuthority (kind : SchemeKind) (character : Char) : Bool :=
  isSlash kind character || character = '?' || character = '#'

def clean (text : List Char) : List Char :=
  (Ascii.trimWhile (fun character => character.toNat ≤ 32) text).filter fun character =>
    character ≠ '\t' && character ≠ '\n' && character ≠ '\r'

def isSchemeChar (character : Char) : Bool :=
  Ascii.isAlphanumeric character || character = '+' || character = '-' || character = '.'

def scheme? (text : List Char) : Option (String × List Char) :=
  let name := text.takeWhile isSchemeChar
  match name, text.drop name.length with
  | first :: _, ':' :: rest =>
    if Ascii.isLetter first then some (String.ofList (Ascii.lower name), rest) else none
  | _, _ => none

def isSingleDot (segment : List Char) : Bool :=
  let lowered := Ascii.lower segment
  lowered = ".".toList || lowered = "%2e".toList

def isDoubleDot (segment : List Char) : Bool :=
  let lowered := Ascii.lower segment
  lowered = "..".toList || lowered = ".%2e".toList || lowered = "%2e.".toList ||
    lowered = "%2e%2e".toList

def isDrive (segment : List Char) : Bool :=
  match segment with
  | [letter, mark] => Ascii.isLetter letter && (mark = ':' || mark = '|')
  | _ => false

/-- Removes the last of the segments, latest first; the drive of a file path stays. -/
def dropLastSegment (kind : SchemeKind) : List (List Char) → List (List Char)
  | [] => []
  | [only] => if kind = .file && isDrive only then [only] else []
  | _ :: before => before

/-- Adds a segment to those before it, latest first. Dot segments climb or stay; a last dot segment
leaves an empty one behind. -/
def addSegment (kind : SchemeKind) (resolved : List (List Char)) (segment : List Char)
    (last : Bool) : List (List Char) :=
  if isDoubleDot segment then
    let climbed := dropLastSegment kind resolved
    if last then [] :: climbed else climbed
  else if isSingleDot segment then
    if last then [] :: resolved else resolved
  else if kind = .file && resolved.isEmpty && isDrive segment then
    (segment.take 1 ++ [':']) :: resolved
  else segment :: resolved

def resolve (kind : SchemeKind) (resolved : List (List Char)) :
    List (List Char) → List (List Char)
  | [] => resolved
  | [last] => addSegment kind resolved last true
  | segment :: rest => resolve kind (addSegment kind resolved segment false) rest

def splitSegments (kind : SchemeKind) : List Char → List (List Char)
  | [] => [[]]
  | character :: rest =>
    if isSlash kind character then [] :: splitSegments kind rest
    else match splitSegments kind rest with
      | [] => [[character]]
      | first :: others => (character :: first) :: others

def dropEmptyFront : List (List Char) → List (List Char)
  | [] => []
  | [last] => [last]
  | [] :: rest => dropEmptyFront rest
  | kept => kept

def pathText (kind : SchemeKind) (text : List Char) : List Char :=
  let unrooted := match text with
    | first :: rest => if isSlash kind first then rest else text
    | [] => []
  if text.isEmpty && !kind.isSpecial then []
  else
    let encoded := Percent.encode Percent.encodedInPath unrooted
    let segments := (resolve kind [] (splitSegments kind encoded)).reverse
    let kept := if kind = .file then dropEmptyFront segments else segments
    kept.flatMap fun segment => '/' :: segment

def cut (mark : Char) (text : List Char) : List Char × Option (List Char) :=
  match Ascii.splitOnce? mark text with
  | some (before, after) => (before, some after)
  | none => (text, none)

def queryText (kind : SchemeKind) (query : List Char) : String :=
  String.ofList (Percent.encode
    (if kind.isSpecial then Percent.encodedInSpecialQuery else Percent.encodedInQuery) query)

def fragmentText (fragment : List Char) : String :=
  String.ofList (Percent.encode Percent.encodedInFragment fragment)

def specialHost (text : List Char) : Except UrlError Host :=
  match text with
  | '[' :: rest =>
    if rest.getLast? = some ']' then
      match Address.six? rest.dropLast with
      | some groups => .ok (.six groups)
      | none => .error .invalidIpv6
    else .error .invalidIpv6
  | _ =>
    match Domain.toAscii? (Percent.decode text) with
    | none => .error .invalidDomain
    | some name =>
      if name.isEmpty then .error .emptyHost
      else if Address.endsInNumber name then
        match Address.four? name with
        | some address => .ok (.four address)
        | none => .error .invalidIpv4
      else .ok (.domain (String.ofList name))

def plainHost (text : List Char) : Except UrlError Host :=
  match text with
  | '[' :: _ => specialHost text
  | _ =>
    if text.any fun character =>
        character.toNat = 0 || " #/:<>?@[\\]^|".toList.contains character then
      .error .invalidDomainCharacter
    else .ok (.domain (String.ofList (Percent.encode Percent.isControl text)))

def splitHost (bracketed : Bool) : List Char → List Char × List Char
  | [] => ([], [])
  | character :: rest =>
    if character = ':' && !bracketed then ([], character :: rest)
    else
      let inside := if character = '[' then true else if character = ']' then false else bracketed
      let (host, behind) := splitHost inside rest
      (character :: host, behind)

def numberBehindHost (scheme : String) (digits : List Char) : Except UrlError (Option Nat) :=
  if digits.isEmpty then .ok none
  else match (Ascii.number? 10 digits).filter (· < 65536) with
    | none => .error .invalidPortNumber
    | some number => .ok (if impliedPortNumber scheme = some number then none else some number)

structure UserInformation where
  username : String
  password : Option String

def userInformation (text : List Char) : UserInformation :=
  let encoded (part : List Char) : String :=
    String.ofList (Percent.encode Percent.encodedInUserInformation part)
  match Ascii.splitOnce? ':' text with
  | some (name, secret) => ⟨encoded name, if secret.isEmpty then none else some (encoded secret)⟩
  | none => ⟨encoded text, none⟩

structure Authority where
  user : UserInformation
  host : Option Host
  portNumber : Option Nat

/-- The host of an authority. Only plain schemes allow an empty one. -/
def hostOf (kind : SchemeKind) (text : List Char) : Except UrlError Host :=
  if kind.isSpecial then
    if text.isEmpty then .error .emptyHost else specialHost text
  else plainHost text

/-- Reads an authority that something may follow. The host may not be empty behind a name, before a
number, or between an at sign and what follows. -/
def authority (scheme : String) (text : List Char) (followed : Bool) :
    Except UrlError Authority := do
  let kind := schemeKind scheme
  let (userText, hostText) := match Ascii.splitLast? '@' text with
    | some (before, after) => (some before, after)
    | none => (none, text)
  if userText = some [] && hostText.isEmpty && followed then throw .emptyHost
  let user := userInformation (userText.getD [])
  let named := user.password.isSome || user.username ≠ ""
  let (hostPart, behind) := splitHost false hostText
  let host ← hostOf kind hostPart
  if hostPart.isEmpty && (named || !behind.isEmpty) then throw .emptyHost
  let number ← numberBehindHost scheme (behind.drop 1)
  pure ⟨user, some host, number⟩

structure Tail where
  path : List Char
  query : Option (List Char)
  fragment : Option (List Char)

def tail (text : List Char) : Tail :=
  let (unmarked, fragment) := cut '#' text
  let (path, query) := cut '?' unmarked
  ⟨path, query, fragment⟩

def assemble (scheme : String) (authority : Authority) (tail : Tail) : Url :=
  let kind := schemeKind scheme
  { scheme := scheme
    username := authority.user.username
    password := authority.user.password
    host := authority.host
    portNumber := authority.portNumber
    path := .segments (String.ofList (pathText kind tail.path))
    query := tail.query.map (queryText kind)
    fragment := tail.fragment.map fragmentText }

def Authority.none : Authority := ⟨⟨"", Option.none⟩, Option.none, Option.none⟩

def afterSlashes (scheme : String) (text : List Char) : Except UrlError Url := do
  let kind := schemeKind scheme
  let authorityText := text.takeWhile fun character => !endsAuthority kind character
  let rest := text.drop authorityText.length
  let found ← authority scheme authorityText (!rest.isEmpty)
  pure (assemble scheme found (tail rest))

/-- The host of a file; a drive is no host, and the local host is none. -/
def fileHost (text : List Char) : Except UrlError (Option Host) :=
  if text.isEmpty || isDrive text then .ok none
  else (specialHost text).map fun host => if host = .domain "localhost" then none else some host

/-- Reads what follows the scheme of a file. The host of a file always counts as present. -/
def fileUrl (text : List Char) : Except UrlError Url := do
  let slashes := (text.take 2).takeWhile (isSlash .file)
  if slashes.length = 2 then
    let behind := text.drop 2
    let hostText := behind.takeWhile fun character => !endsAuthority .file character
    let host ← fileHost hostText
    let rest := if isDrive hostText then behind else behind.drop hostText.length
    pure (assemble "file" { Authority.none with host := some (host.getD (.domain "")) } (tail rest))
  else
    pure (assemble "file" { Authority.none with host := some (.domain "") } (tail text))

def otherUrl (scheme : String) (text : List Char) : Except UrlError Url :=
  match text with
  | '/' :: '/' :: rest => afterSlashes scheme rest
  | '/' :: _ => .ok (assemble scheme Authority.none (tail text))
  | _ =>
    let parts := tail text
    .ok
      { assemble scheme Authority.none parts with
        path := .opaqueText (String.ofList (Percent.encode Percent.isControl parts.path)) }

def parse (text : String) : Except UrlError Url :=
  match scheme? (clean text.toList) with
  | none => .error .relativeWithoutBase
  | some (scheme, rest) =>
    match schemeKind scheme with
    | .file => fileUrl rest
    | .network => afterSlashes scheme (rest.dropWhile (isSlash .network))
    | .other => otherUrl scheme rest

/-- The URL with another path, read as the reader reads paths. An opaque path stays opaque and
encodes a slash at its front. -/
def withPath (url : Url) (path : String) : Url :=
  match url.path with
  | .opaqueText _ =>
    let (front, rest) := match path.toList with
      | '/' :: rest => ("%2F".toList, rest)
      | other => ([], other)
    { url with path := .opaqueText (String.ofList (front ++ Percent.encode Percent.isControl rest)) }
  | .segments _ =>
    { url with path := .segments (String.ofList (pathText (schemeKind url.scheme) path.toList)) }

def withQuery (url : Url) (query : Option String) : Url :=
  { url with query := query.map fun text => queryText (schemeKind url.scheme) text.toList }

def isReadable (encoded : String) : Bool :=
  (Octets.utf8? (Percent.decode encoded.toList)).isSome

/-- The URL without user information. Information that is no text stays where it is. -/
def withoutUser (url : Url) : Url :=
  if url.username ≠ "" && isReadable url.username ||
      url.username = "" && url.password.any isReadable then
    { url with username := "", password := none }
  else url

def userText (url : Url) : String :=
  match url.password with
  | some password => url.username ++ ":" ++ password ++ "@"
  | none => if url.username = "" then "" else url.username ++ "@"

/-- What stands between the scheme and the path. Without a host, a path that begins with an empty
segment is set apart by a dot, or it would read as a host. -/
def authorityText (url : Url) : String :=
  match url.host with
  | some host => "//" ++ url.userText ++ String.ofList host.text ++
      (match url.portNumber with
        | some number => ":" ++ toString number
        | none => "")
  | none =>
    match url.path with
    | .segments path => if "//".toList.isPrefixOf path.toList then "/." else ""
    | .opaqueText _ => ""

def text (url : Url) : String :=
  let query := match url.query with
    | some content => "?" ++ content
    | none => ""
  let fragment := match url.fragment with
    | some content => "#" ++ content
    | none => ""
  url.scheme ++ ":" ++ url.authorityText ++ url.path.text ++ query ++ fragment

end Url

end CachingGateway
