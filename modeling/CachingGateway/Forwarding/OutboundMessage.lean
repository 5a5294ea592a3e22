/-
A request on its way to the service behind the gateway, as bytes. It names its host, accepts
anything unless it says otherwise, and states the length of its body.
-/

import CachingGateway.Forwarding.Forwarder
import CachingGateway.Http.Framing

namespace CachingGateway

namespace OutboundMessage

def accept : HeaderName := HeaderName.ofLiteral "accept"

def isBodilessByNature (method : Method) : Bool :=
  ["GET", "HEAD", "DELETE", "CONNECT"].contains method.name

def isLengthStated (request : OutboundRequest) : Bool :=
  !request.body.isEmpty || !isBodilessByNature request.method

def complete (request : OutboundRequest) : Headers :=
  let accepting :=
    if request.headers.contains accept then request.headers
    else request.headers.append accept (Octets.ofText "*/*")
  if isLengthStated request && !accepting.contains Framing.contentLength then
    accepting.append Framing.contentLength (Octets.ofText (toString request.body.length))
  else accepting

def hostText (url : Url) : String :=
  let host := match url.host with
    | some host => String.ofList host.text
    | none => ""
  match url.portNumber with
  | some number => host ++ ":" ++ toString number
  | none => host

def portNumber (url : Url) : Nat :=
  (url.portNumber.or (Url.impliedPortNumber url.scheme)).getD 0

def startLine (request : OutboundRequest) : String :=
  let query := match request.url.query with
    | some content => "?" ++ content
    | none => ""
  request.method.name ++ " " ++ request.url.path.text ++ query ++ " HTTP/1.1"

def bytes (request : OutboundRequest) : Octets :=
  let hosted : Headers :=
    ⟨⟨OutboundHeaders.host, Octets.ofText (hostText request.url)⟩ :: (complete request).fields⟩
  Framing.write (startLine request) hosted request.body

end OutboundMessage

end CachingGateway
