/-
Limiter keys. A caller is known by its address, by a credential in a header, or by several such keys
together. Forwarding headers are trusted as they are.
-/

import CachingGateway.Http.Message
import CachingGateway.Text.Blank

namespace CachingGateway

inductive KeyRule where
  | address
  | credential (header : String)
  | joined (rules : List KeyRule)

namespace ClientKey

def forwardedFor : HeaderName := HeaderName.ofLiteral "x-forwarded-for"
def realAddress : HeaderName := HeaderName.ofLiteral "x-real-ip"

def textValue? (headers : Headers) (name : HeaderName) : Option (List Char) :=
  (headers.firstText? name).filter fun text => !text.isEmpty

/-- The host of `host:number` or `[host]:number`; a text of neither form is its own host. -/
def hostPart (address : List Char) : List Char :=
  match address with
  | '[' :: rest =>
    match Ascii.splitOnce? ']' rest with
    | some (host, _) => host
    | none => address
  | _ =>
    match Ascii.splitLast? ':' address with
    | some (host, _) => if host.contains ':' then address else host
    | none => address

/-- The first hop of a forwarding chain, else the stated real address, else the peer's host. -/
def address (headers : Headers) (peer : List Char) : List Char :=
  match textValue? headers forwardedFor with
  | some chain => Blank.trim ((Ascii.splitAt ',' chain).headD [])
  | none => (textValue? headers realAddress).getD (hostPart peer)

def credential? (headers : Headers) (header : String) : Option (List Char) :=
  (HeaderName.ofText? header).bind (textValue? headers)

end ClientKey

namespace KeyRule

mutual

def keyChars (headers : Headers) (peer : List Char) : KeyRule → List Char
  | .address => ClientKey.address headers peer
  | .credential header =>
    match ClientKey.credential? headers header with
    | some secret => "apikey:".toList ++ secret
    | none => ClientKey.address headers peer
  | .joined rules => Ascii.joinWith [':'] (keyCharsOfAll headers peer rules)

def keyCharsOfAll (headers : Headers) (peer : List Char) : List KeyRule → List (List Char)
  | [] => []
  | rule :: rest => keyChars headers peer rule :: keyCharsOfAll headers peer rest

end

def key (rule : KeyRule) (headers : Headers) (peer : String) : String :=
  String.ofList (keyChars headers peer.toList rule)

end KeyRule

inductive KeyStrategy where
  | ip
  | apiKey
  | composite
  deriving DecidableEq, Repr, Inhabited

namespace KeyStrategy

def name : KeyStrategy → String
  | ip => "ip"
  | apiKey => "api_key"
  | composite => "composite"

def ofName? (name : String) : Option KeyStrategy :=
  if name = "ip" then some ip
  else if name = "api_key" ∨ name = "apikey" then some apiKey
  else if name = "composite" then some composite
  else none

def normalized (text : String) : String :=
  String.ofList (Ascii.lower (Blank.trim text.toList))

/-- Reads a name in any case with blanks around it; an unknown one is told back. -/
def parse (text : String) : Except String KeyStrategy :=
  match ofName? (normalized text) with
  | some strategy => .ok strategy
  | none => .error ("unknown rate limit key strategy: " ++ normalized text)

def rule (strategy : KeyStrategy) (header : String) : KeyRule :=
  match strategy with
  | ip => .address
  | apiKey => .credential header
  | composite => .joined [.address, .credential header]

end KeyStrategy

end CachingGateway
