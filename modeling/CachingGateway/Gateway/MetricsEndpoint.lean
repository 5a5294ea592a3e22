/-
The listener for the counts. It has one route, at a path that is known when the program starts;
before each reading the gauges of the store are set.
-/

import CachingGateway.Gateway.Router
import CachingGateway.Metrics.Exposition

namespace CachingGateway.Gateway

def observe (gateway : Gateway) : Gateway :=
  match gateway.cache with
  | some layer =>
    { gateway with
      metrics := gateway.metrics.observeStore layer.store.length layer.store.size.toNat }
  | none => gateway

def exposition (metrics : Metrics) : Response :=
  ⟨.ok, Headers.empty.append GatewayError.contentType (Octets.ofText "text/plain; version=0.0.4"),
    Octets.ofText (Exposition.text metrics)⟩

inductive RouteFault where
  | empty
  | unrooted
  deriving DecidableEq, Repr

def RouteFault.message : RouteFault → String
  | empty => "Paths must start with a \x60/\x60. Use \"/\" for root routes"
  | unrooted => "Paths must start with a \x60/\x60"

def routeFault? (path : String) : Option RouteFault :=
  match path.toList with
  | [] => some .empty
  | first :: _ => if first = '/' then none else some .unrooted

def scrape (gateway : Gateway) (path : String) (method : Method) (target : Target) :
    Gateway × Response :=
  if target.path ≠ path then (gateway, ContentLength.complete (OwnRoute.bare .notFound))
  else if OwnRoute.answers method then
    let observed := gateway.observe
    (observed, OwnRoute.finish method (exposition observed.metrics))
  else (gateway, OwnRoute.finish method (OwnRoute.bare .methodNotAllowed))

end CachingGateway.Gateway
