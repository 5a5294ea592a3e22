/-
Runs of a gateway: requests one after the other, with pauses, readings of the counts and sweeps of
idle buckets between them. A request that has got no answer is dropped before the next event.
-/

import CachingGateway.Gateway.MetricsEndpoint

namespace CachingGateway

/-- A request that comes in, the identifier it is given if it has none, and the service behind the
gateway as it stands then. -/
structure Arrival where
  fresh : Octets
  request : Request
  origin : Origin

inductive Event where
  | arrival (arrival : Arrival)
  | pause (length : Duration)
  | scrape (path : String) (method : Method) (target : Target)
  | sweep (idle : Duration)

namespace Arrival

def identified (arrival : Arrival) : Request :=
  RequestId.assign arrival.request arrival.fresh

def exchange (arrival : Arrival) (gateway : Gateway) : Exchange :=
  gateway.handle arrival.fresh arrival.request arrival.origin

end Arrival

/-- The gateway once nobody waits for the request any more. -/
def Exchange.settled (exchange : Exchange) : Gateway :=
  match exchange.outcome with
  | .answered _ => exchange.gateway
  | .pending | .broken => exchange.gateway.abandon

namespace Gateway

def step (gateway : Gateway) : Event → Gateway
  | .arrival arrival => (arrival.exchange gateway).settled
  | .pause length => gateway.advance length
  | .scrape path method target => (gateway.scrape path method target).1
  | .sweep idle => gateway.reclaim idle

def run (gateway : Gateway) (events : List Event) : Gateway :=
  events.foldl step gateway

theorem run_append (gateway : Gateway) (earlier later : List Event) :
    gateway.run (earlier ++ later) = (gateway.run earlier).run later :=
  List.foldl_append

end Gateway

end CachingGateway
