/-
Answering from the store or from the service behind the gateway. A fresh entry is replayed, or
confirmed when the client names its tag; otherwise the service is asked, and what it answers is
stored if it may be. With a store, every answer says whether it came from there.
-/

import CachingGateway.Cache.Policy
import CachingGateway.Gateway.State

namespace CachingGateway

namespace Replay

def cacheMark : HeaderName := HeaderName.ofLiteral "x-cache"
def entityTag : HeaderName := HeaderName.ofLiteral "etag"
def ifNoneMatch : HeaderName := HeaderName.ofLiteral "if-none-match"

def hit : Octets := Octets.ofText "HIT"
def miss : Octets := Octets.ofText "MISS"

def namedTag? (headers : Headers) : Option String :=
  ((headers.firstText? ifNoneMatch).filter fun tag => !tag.isEmpty).map String.ofList

def tag (headers : Headers) (etag : String) : Headers :=
  if etag.isEmpty then headers else headers.replace entityTag (Octets.ofText etag)

def markHit (headers : Headers) (entry : Entry) : Headers :=
  tag (headers.replace cacheMark hit) entry.etag

def full (entry : Entry) : Response :=
  ⟨entry.status, markHit entry.headers entry, entry.body⟩

def notModified (entry : Entry) : Response :=
  ⟨.notModified, markHit Headers.empty entry, []⟩

def answer (entry : Entry) (request : Request) : Response :=
  if namedTag? request.headers = some entry.etag then notModified entry else full entry

def markMiss (response : Response) : Response :=
  { response with headers := response.headers.replace cacheMark miss }

end Replay

namespace CacheLayer

def key? (layer : CacheLayer) (request : Request) : Option String :=
  if Policy.isCacheableMethod request.method then
    some (CacheKey.ofRequest request layer.varyHeaders)
  else none

def get (layer : CacheLayer) (now : WallClock) (key : String) : Option Entry × CacheLayer :=
  let (found, store) := layer.store.get now key
  (found, { layer with store := store })

def keep (layer : CacheLayer) (now : WallClock) (key : String) (response : Response) : CacheLayer :=
  let lifetime := Policy.lifetime response.headers layer.defaultLifetime now
  let entry := Entry.create now response (Policy.entityTag response.body) lifetime
  { layer with store := layer.store.set key entry }

end CacheLayer

namespace Gateway

/-- The answer to a response of the service: marked, stored under a key if there is one and the
response may be stored, and tagged if it was. -/
def receive (gateway : Gateway) (request : Request) (key : Option String) (response : Response) :
    Gateway × Response :=
  match gateway.cache with
  | none => (gateway, response)
  | some layer =>
    let marked := Replay.markMiss response
    match key with
    | none => (gateway, marked)
    | some key =>
      if Policy.isCacheable request.method response.status response.headers then
        let kept := layer.keep gateway.clock.wall key response
        ({ gateway with cache := some kept },
          { marked with headers := Replay.tag marked.headers (Policy.entityTag response.body) })
      else (gateway, marked)

def receiveFailure (gateway : Gateway) (error : GatewayError) : Response :=
  if gateway.cache.isSome then Replay.markMiss error.response else error.response

def hear (gateway : Gateway) (request : Request) (key : Option String) :
    OriginAnswer → Gateway × Outcome
  | .silence => (gateway, .pending)
  | .failure error => (gateway, .answered (gateway.receiveFailure error))
  | .response response =>
    let (settled, answer) := gateway.receive request key response
    (settled, .answered answer)

def ask (gateway : Gateway) (request : Request) (key : Option String) (origin : Origin) :
    Exchange :=
  let reply := origin request
  let (settled, outcome) := (gateway.advance reply.delay).hear request key reply.answer
  ⟨settled, outcome, some request⟩

def proxy (gateway : Gateway) (request : Request) (origin : Origin) : Exchange :=
  match gateway.cache with
  | none => gateway.ask request none origin
  | some layer =>
    match layer.key? request with
    | none => gateway.ask request none origin
    | some key =>
      let (found, read) := layer.get gateway.clock.wall key
      let looked := { gateway with cache := some read }
      match found with
      | some entry =>
        ⟨looked.record (·.countHit request.method request.target.path),
          .answered (Replay.answer entry request), none⟩
      | none =>
        (looked.record (·.countMiss request.method request.target.path)).ask request (some key)
          origin

end Gateway

end CachingGateway
