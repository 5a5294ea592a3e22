/-
Requests that wait for the service behind the gateway while others are carried. A request is begun
as if the service kept silent; once the service has answered, it is carried on from the state that
the gateway has then. Without requests in between the two halves make the whole.
-/

import CachingGateway.Gateway.Router

namespace CachingGateway

def Origin.silent : Origin := fun _ => ⟨Duration.zero, .silence⟩

namespace Gateway

/-- Carries a request to its answer or to the service. -/
def begin (gateway : Gateway) (fresh : Octets) (request : Request) : Exchange :=
  gateway.handle fresh request .silent

def key? (gateway : Gateway) (request : Request) : Option String :=
  gateway.cache.bind fun layer => layer.key? request

/-- Carries a request on that came in at an instant and has an answer of the service now. -/
def resume (gateway : Gateway) (begun : Instant) (request : Request) (answer : OriginAnswer) :
    Gateway × Outcome :=
  let (heard, outcome) := gateway.hear request (gateway.key? request) answer
  (heard.close request begun outcome, finishOutcome request outcome)

end Gateway

end CachingGateway
