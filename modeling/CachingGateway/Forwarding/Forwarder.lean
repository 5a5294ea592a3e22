/-
Sending requests on to the service behind the gateway. The request goes to the scheme and host of
the configured address with the path and query of the inbound target. A link carries it; without an
answer the failure tells the address that was asked.
-/

import CachingGateway.Forwarding.OutboundHeaders
import CachingGateway.Gateway.State
import CachingGateway.Url.Basic

namespace CachingGateway

structure OutboundRequest where
  method : Method
  url : Url
  headers : Headers
  body : Octets
  deriving DecidableEq, Repr

inductive LinkAnswer where
  | response (response : Response)
  | unreachable
  | timedOut
  deriving DecidableEq, Repr, Inhabited

abbrev Link := OutboundRequest → LinkAnswer

structure Forwarder where
  address : Url
  forbidden : List HeaderName
  timeout : Duration
  deriving DecidableEq, Repr

namespace Forwarder

/-- A forwarder by its settings. Forbidden names that are no header names are passed over. -/
def ofSettings (settings : OriginSettings) : Except GatewayError Forwarder :=
  match Url.parse settings.url with
  | .error error => .error (.configuration ("invalid upstream URL: " ++ error.message))
  | .ok address => .ok
      { address := address
        forbidden := settings.forbiddenHeaders.filterMap HeaderName.ofText?
        timeout := Duration.ofSeconds settings.timeout }

def targetUrl (forwarder : Forwarder) (target : Target) : Url :=
  (forwarder.address.withPath target.path).withQuery target.query

def outbound (forwarder : Forwarder) (request : Request) : OutboundRequest :=
  { method := request.method
    url := (forwarder.targetUrl request.target).withoutUser
    headers := OutboundHeaders.ofInbound forwarder.forbidden request.headers request.peer
    body := request.body }

def isCarried (url : Url) : Bool :=
  url.scheme = "http" || url.scheme = "https"

def failureText (cause : String) (url : Url) : String :=
  cause ++ " for url (" ++ url.text ++ ")"

def dispatch (forwarder : Forwarder) (link : Link) (request : Request) : OriginAnswer :=
  let outbound := forwarder.outbound request
  if isCarried outbound.url then
    match link outbound with
    | .response response =>
      .response { response with headers := OutboundHeaders.withoutHopByHop response.headers }
    | .unreachable => .failure (.origin (failureText "error sending request" outbound.url))
    | .timedOut => .failure .originTimeout
  else .failure (.origin (failureText "builder error" outbound.url))

end Forwarder

end CachingGateway
