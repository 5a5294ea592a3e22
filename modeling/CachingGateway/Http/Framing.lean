/-
Messages as they travel over a connection: a start line, header lines, an empty line and a body.
The body has the stated length, or comes in chunks, or goes on to the end of the connection. A
reader takes what it wants from the front of the bytes and passes the rest on; it tells bytes that
are no message from bytes that are not yet one.
-/

import CachingGateway.Http.Message
import CachingGateway.Http.Reason
import CachingGateway.Text.Blank
import CachingGateway.Time.HttpDate

namespace CachingGateway

/-- Why bytes have not been read: more must come, or they are no message. -/
inductive Unread where
  | incomplete
  | malformed
  deriving DecidableEq, Repr

namespace Framing

abbrev Reader (result : Type) := Octets → Except Unread (result × Octets)

def lineEnd : Octets := [13, 10]

/-- A line without its end; a carriage return before the line feed belongs to the end. -/
def line : Reader Octets
  | [] => .error .incomplete
  | 10 :: rest => .ok ([], rest)
  | 13 :: 10 :: rest => .ok ([], rest)
  | octet :: rest => (line rest).map fun found => (octet :: found.1, found.2)

def exactly (count : Nat) : Reader Octets := fun octets =>
  if octets.length < count then .error .incomplete
  else .ok (octets.take count, octets.drop count)

def isBlankOctet (octet : UInt8) : Bool :=
  octet == 32 || octet == 9

def trim (octets : Octets) : Octets :=
  ((octets.dropWhile isBlankOctet).reverse.dropWhile isBlankOctet).reverse

def characters (octets : Octets) : Except Unread (List Char) :=
  match Octets.visible? octets with
  | some text => .ok text
  | none => .error .malformed

def orMalformed {result : Type} (found : Option result) : Except Unread result :=
  match found with
  | some value => .ok value
  | none => .error .malformed

def headerField (octets : Octets) : Except Unread (HeaderName × Octets) := do
  let name ← characters (octets.takeWhile (· ≠ 58))
  let value := trim ((octets.dropWhile (· ≠ 58)).drop 1)
  let known ← orMalformed (HeaderName.ofText? (String.ofList name))
  if octets.contains 58 && value.all isHeaderByte then pure (known, value) else throw .malformed

/-- Header lines up to an empty line; the fuel bounds their number. -/
def headerLines (fuel : Nat) (headers : Headers) : Reader Headers := fun octets =>
  match fuel with
  | 0 => .error .malformed
  | less + 1 => do
    let (found, rest) ← line octets
    if found.isEmpty then pure (headers, rest)
    else
      let (name, value) ← headerField found
      headerLines less (headers.append name value) rest

structure Head where
  start : List Char
  headers : Headers

def head : Reader Head := fun octets => do
  let (found, rest) ← line octets
  let start ← characters found
  let (headers, behind) ← headerLines (rest.length + 1) Headers.empty rest
  pure (⟨start, headers⟩, behind)

inductive BodyEnd where
  | stated (length : Nat)
  | lastChunk
  | connection
  deriving DecidableEq, Repr

def transferEncoding : HeaderName := HeaderName.ofLiteral "transfer-encoding"
def contentLength : HeaderName := HeaderName.ofLiteral "content-length"

/-- Chunks win over a stated length; without either the body ends as `other` says. -/
def bodyEnd (headers : Headers) (other : BodyEnd) : Except Unread BodyEnd :=
  match headers.firstText? transferEncoding with
  | some encoding =>
    if Ascii.sameIgnoringCase (Blank.trim encoding) "chunked".toList then .ok .lastChunk
    else .error .malformed
  | none =>
    match headers.first? contentLength with
    | none => .ok other
    | some stated =>
      (orMalformed ((Octets.visible? stated).bind (Ascii.number? 10))).map BodyEnd.stated

def chunks (fuel : Nat) (read : Octets) : Reader Octets := fun octets =>
  match fuel with
  | 0 => .error .malformed
  | less + 1 => do
    let (sizeLine, rest) ← line octets
    let text ← characters (sizeLine.takeWhile (· ≠ 59))
    let size ← orMalformed (Ascii.number? 16 (Blank.trim text))
    if size = 0 then
      let (_, behind) ← headerLines (rest.length + 1) Headers.empty rest
      pure (read, behind)
    else
      let (content, afterContent) ← exactly size rest
      let (gap, behind) ← line afterContent
      if gap.isEmpty then chunks less (read ++ content) behind else throw .malformed

/-- A body; `closed` says that nothing comes behind the bytes given. -/
def body (ending : BodyEnd) (closed : Bool) : Reader Octets := fun octets =>
  match ending with
  | .stated length => exactly length octets
  | .lastChunk => chunks (octets.length + 1) [] octets
  | .connection => if closed then .ok (octets, []) else .error .incomplete

def words (start : List Char) : List (List Char) :=
  Ascii.splitAt ' ' start

inductive Version where
  | oneZero
  | oneOne
  deriving DecidableEq, Repr

def version? (word : List Char) : Option Version :=
  if word = "HTTP/1.1".toList then some .oneOne
  else if word = "HTTP/1.0".toList then some .oneZero
  else none

def connection : HeaderName := HeaderName.ofLiteral "connection"

def asksToClose (headers : Headers) : Bool :=
  ((headers.values connection).filterMap Octets.visible?).any fun options =>
    (Ascii.splitAt ',' options).any fun option =>
      Ascii.sameIgnoringCase (Blank.trim option) "close".toList

structure Inbound where
  request : Request
  version : Version
  staysOpen : Bool

/-- A request with its peer. Without a stated length it has no body. -/
def request (peer : Option Peer) : Reader Inbound := fun octets => do
  let (found, rest) ← head octets
  match words found.start with
  | [method, target, version] =>
    let version ← orMalformed (version? version)
    let method ← orMalformed (Method.ofText? (String.ofList method))
    let target ← orMalformed (Target.ofText? (String.ofList target))
    let ending ← bodyEnd found.headers (.stated 0)
    let (content, behind) ← body ending false rest
    let staysOpen := version = .oneOne && !asksToClose found.headers
    pure (⟨⟨method, target, found.headers, content, peer⟩, version, staysOpen⟩, behind)
  | _ => throw .malformed

def isBodiless (method : Method) (status : Status) : Bool :=
  method = Method.head || status.code < 200 || status.code = 204 || status.code = 304

def isInterim (status : Status) : Bool :=
  status.code < 200

/-- The response to a request with a method. Interim responses before it are passed over; the fuel
bounds their number. -/
def response (fuel : Nat) (method : Method) (closed : Bool) : Reader Response := fun octets =>
  match fuel with
  | 0 => .error .malformed
  | less + 1 => do
    let (found, rest) ← head octets
    match words found.start with
    | version :: code :: _ =>
      if (version? version).isNone || code.length ≠ 3 then throw .malformed
      let status ← orMalformed ((Ascii.number? 10 code).bind Status.ofNat?)
      if isInterim status then response less method closed rest
      else if isBodiless method status then pure (⟨status, found.headers, []⟩, rest)
      else
        let ending ← bodyEnd found.headers .connection
        let (content, behind) ← body ending closed rest
        pure (⟨status, found.headers, content⟩, behind)
    | _ => throw .malformed

def writeField (field : HeaderField) : Octets :=
  Octets.ofText (String.ofList field.name.text ++ ": ") ++ field.value ++ lineEnd

def write (start : String) (headers : Headers) (content : Octets) : Octets :=
  Octets.ofText start ++ lineEnd ++ headers.fields.flatMap writeField ++ lineEnd ++ content

def Version.text : Version → String
  | .oneZero => "HTTP/1.0"
  | .oneOne => "HTTP/1.1"

def date : HeaderName := HeaderName.ofLiteral "date"

def closing (inbound : Inbound) (now : Moment) (headers : Headers) : Headers :=
  let dated :=
    if headers.contains date then headers
    else headers.append date (Octets.ofText (String.ofList (HttpDate.text now)))
  if inbound.version = .oneOne && !inbound.staysOpen then
    dated.replace connection (Octets.ofText "close")
  else dated

def answer (inbound : Inbound) (now : Moment) (response : Response) : Octets :=
  write (inbound.version.text ++ " " ++ response.status.text ++ " " ++ response.status.reason)
    (closing inbound now response.headers)
    (if isBodiless inbound.request.method response.status then [] else response.body)

def refusal (now : Moment) : Octets :=
  let headers := (Headers.empty.append connection (Octets.ofText "close")).append contentLength
    (Octets.ofText "0")
  write "HTTP/1.1 400 Bad Request"
    (headers.append date (Octets.ofText (String.ofList (HttpDate.text now)))) []

end Framing

end CachingGateway
