/-
The headers that a request carries on. Headers of the connection, the host and configured names stay
behind; the address of the peer is added to the chain of those that forwarded the request.
-/

import CachingGateway.Http.Message
import CachingGateway.RateLimit.ClientKey

namespace CachingGateway

namespace OutboundHeaders

def hopByHop : List HeaderName :=
  ["connection", "keep-alive", "proxy-authenticate", "proxy-authorization", "te", "trailer",
    "transfer-encoding", "upgrade"].map HeaderName.ofLiteral

def host : HeaderName := HeaderName.ofLiteral "host"

def withoutHopByHop (headers : Headers) : Headers :=
  headers.removeAll hopByHop

/-- The chain with the address of a peer behind the first value there is, if that is text. -/
def chain (headers : Headers) (peer : Peer) : List Char :=
  match headers.firstText? ClientKey.forwardedFor with
  | some prior => prior ++ ", ".toList ++ peer.address.text
  | none => peer.address.text

def ofInbound (forbidden : List HeaderName) (headers : Headers) (peer : Option Peer) : Headers :=
  let kept := ((withoutHopByHop headers).remove host).removeAll forbidden
  match peer with
  | none => kept
  | some peer =>
    kept.replace ClientKey.forwardedFor (Octets.ofText (String.ofList (chain kept peer)))

end OutboundHeaders

end CachingGateway
