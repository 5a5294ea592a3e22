/-
Failures of the gateway, their texts, and the responses that tell a client of them.
-/

import CachingGateway.Http.Message
import CachingGateway.Json.Printer

namespace CachingGateway

inductive GatewayError where
  | configuration (text : String)
  | originTimeout
  | origin (text : String)
  | rateLimited (retryAfterSeconds : Nat)
  | io (text : String)
  | metrics (text : String)
  deriving DecidableEq, Repr

namespace GatewayError

def message : GatewayError → String
  | configuration text => "Invalid configuration: " ++ text
  | originTimeout => "Upstream request timed out"
  | origin text => "Upstream request failed: " ++ text
  | rateLimited _ => "rate limit exceeded"
  | io text => "I/O error: " ++ text
  | metrics text => "Metrics error: Error: " ++ text

def status : GatewayError → Status
  | configuration _ => .internalError
  | originTimeout => .gatewayTimeout
  | origin _ => .badGateway
  | rateLimited _ => .tooManyRequests
  | io _ => .internalError
  | metrics _ => .internalError

def body (error : GatewayError) : Octets :=
  Octets.ofText (Json.ofMembers [("error", Json.ofText error.message)]).toText

def contentType : HeaderName := HeaderName.ofLiteral "content-type"
def retryAfter : HeaderName := HeaderName.ofLiteral "retry-after"

def headers (error : GatewayError) : Headers :=
  let typed := Headers.empty.append contentType (Octets.ofText "application/json")
  match error with
  | rateLimited seconds => typed.append retryAfter (Octets.ofText (toString seconds))
  | _ => typed

def response (error : GatewayError) : Response :=
  ⟨error.status, error.headers, error.body⟩

end GatewayError

end CachingGateway
