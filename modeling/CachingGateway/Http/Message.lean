/-
Requests and responses with their whole bodies.
-/

import CachingGateway.Http.Method
import CachingGateway.Http.Target
import CachingGateway.Network.Peer

namespace CachingGateway

/-- A request, with the address of its connection if it is known. -/
structure Request where
  method : Method
  target : Target
  headers : Headers
  body : Octets
  peer : Option Peer
  deriving DecidableEq, Repr

structure Response where
  status : Status
  headers : Headers
  body : Octets
  deriving DecidableEq, Repr, Inhabited

end CachingGateway
