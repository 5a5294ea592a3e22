/-
The way of a request through the gateway. It is given an identifier if it has none, counted,
admitted or denied, and answered: the probes by the gateway itself, all else by the proxy. The
answer carries the identifier and a length.
-/

import CachingGateway.Gateway.Proxy
import CachingGateway.Number.Word
import CachingGateway.Time.Moment

namespace CachingGateway

namespace RequestId

def header : HeaderName := HeaderName.ofLiteral "x-request-id"

def assign (request : Request) (fresh : Octets) : Request :=
  if request.headers.contains header then request
  else { request with headers := request.headers.append header fresh }

def propagate (request : Request) (response : Response) : Response :=
  if response.headers.contains header then response
  else match request.headers.first? header with
    | some identifier =>
      { response with headers := response.headers.append header identifier }
    | none => response

end RequestId

namespace ContentLength

def header : HeaderName := HeaderName.ofLiteral "content-length"

def stated (headers : Headers) : Nat :=
  ((headers.firstText? header).bind (Ascii.unsigned? Word.greatest64)).getD 0

def complete (response : Response) : Response :=
  if response.headers.contains header then response
  else
    { response with
      headers := response.headers.append header (Octets.ofText (toString response.body.length)) }

end ContentLength

inductive Route where
  | health
  | ready
  | proxied
  deriving DecidableEq, Repr

namespace Route

/-- Probes answer at their exact paths only. -/
def ofPath (path : String) : Route :=
  if path = "/health" then health else if path = "/ready" then ready else proxied

def isOwn (route : Route) : Bool :=
  route ≠ proxied

end Route

namespace OwnRoute

def allowed : HeaderName := HeaderName.ofLiteral "allow"

def answers (method : Method) : Bool :=
  method = Method.get || method = Method.head

def bare (status : Status) : Response :=
  ⟨status, Headers.empty, []⟩

/-- What a client gets of an answer of the gateway's own: its length, the methods allowed if it
asked with another, and no body if it asked for none. -/
def finish (method : Method) (response : Response) : Response :=
  let complete := ContentLength.complete response
  let listed :=
    if answers method || complete.headers.contains allowed then complete
    else { complete with headers := complete.headers.append allowed (Octets.ofText "GET,HEAD") }
  if method = Method.head then { listed with body := [] } else listed

def probe (status : String) (now : WallClock) : Response :=
  let timestamp := (Moment.ofNanoseconds now.nanoseconds).timestamp
  let body := Json.ofMembers [("status", Json.ofText status), ("timestamp", Json.ofText timestamp)]
  ⟨.ok, Headers.empty.append GatewayError.contentType (Octets.ofText "application/json"),
    Octets.ofText body.toText⟩

end OwnRoute

namespace Gateway

def answer (gateway : Gateway) (request : Request) (origin : Origin) : Exchange :=
  let own (status : String) : Exchange :=
    if OwnRoute.answers request.method then
      ⟨gateway, .answered (OwnRoute.probe status gateway.clock.wall), none⟩
    else ⟨gateway, .answered (OwnRoute.bare .methodNotAllowed), none⟩
  match Route.ofPath request.target.path with
  | .health => own "healthy"
  | .ready => own "ready"
  | .proxied => gateway.proxy request origin

/-- Whole seconds that a denied client is told to wait, the nearest, a half going up. -/
def retryAfter (wait : Duration) : Nat :=
  wait.toBinary64.roundHalfAway.clampToNat Word.greatest64

def callerKey (admission : Admission) (request : Request) : String :=
  admission.rule.key request.headers
    (match request.peer with
      | some peer => String.ofList peer.text
      | none => "")

def passLimiter (gateway : Gateway) (request : Request) (origin : Origin) : Exchange :=
  match gateway.admission with
  | none => gateway.answer request origin
  | some admission =>
    let key := callerKey admission request
    let now := gateway.clock.monotonic
    let (admitted, limiter) := admission.limiter.allow now key
    let asked := { gateway with admission := some { admission with limiter := limiter } }
    if admitted then asked.answer request origin
    else match limiter.wait? now key with
      | none => ⟨asked, .broken, none⟩
      | some wait =>
        ⟨asked.record Metrics.countDrop,
          .answered (GatewayError.rateLimited (retryAfter wait)).response, none⟩

def summary (request : Request) (response : Response) (duration : Duration) : AnsweredRequest :=
  { method := request.method
    path := request.target.path
    status := response.status
    duration := duration
    requestSize := ContentLength.stated request.headers
    responseSize := response.body.length }

def close (gateway : Gateway) (request : Request) (begun : Instant) : Outcome → Gateway
  | .answered response =>
    let duration := gateway.clock.monotonic.elapsedSince begun
    gateway.record fun metrics =>
      (metrics.countRequest (summary request response duration)).leave
  | .pending => gateway
  | .broken => gateway

/-- Counts a request from its coming in until it is answered. One that is not answered stays open.
-/
def measure (gateway : Gateway) (request : Request) (origin : Origin) : Exchange :=
  let exchange := (gateway.record Metrics.enter).passLimiter request origin
  { exchange with
    gateway := exchange.gateway.close request gateway.clock.monotonic exchange.outcome }

def finish (request : Request) (response : Response) : Response :=
  let identified := RequestId.propagate request response
  if (Route.ofPath request.target.path).isOwn then OwnRoute.finish request.method identified
  else ContentLength.complete identified

def finishOutcome (request : Request) : Outcome → Outcome
  | .answered response => .answered (finish request response)
  | .pending => .pending
  | .broken => .broken

/-- Carries a request through the gateway. The identifier is used if the request has none. -/
def handle (gateway : Gateway) (fresh : Octets) (request : Request) (origin : Origin) : Exchange :=
  let identified := RequestId.assign request fresh
  let exchange := gateway.measure identified origin
  { exchange with outcome := finishOutcome identified exchange.outcome }

def abandon (gateway : Gateway) : Gateway :=
  gateway.record Metrics.leave

end Gateway

end CachingGateway
