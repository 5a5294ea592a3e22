/-
How a request passes the gateway. It is kept from the proxy by the limiter or by its path, or it is
replayed from the store, or it is sent to the service. A request is carried through by many functions;
what the limiter and the proxy make of it is said in one equation for each, and all that they do to the
store once for each of these three ways.
-/

import CachingGateway.Gateway.Resumption
import CachingGateway.Proofs.Gateway.Run
import CachingGateway.Proofs.Http.HeaderValues

namespace CachingGateway

/-- What a layer holds for a request, and the layer after the look. -/
def CacheLayer.look (layer : CacheLayer) (now : WallClock) (request : Request) :
    Option Entry × CacheLayer :=
  match layer.key? request with
  | none => (none, layer)
  | some key => layer.get now key

namespace CacheLayer

theorem key?_eq_some_iff {layer : CacheLayer} {request : Request} {key : String} :
    layer.key? request = some key ↔ Policy.isCacheableMethod request.method = true ∧
      CacheKey.ofRequest request layer.varyHeaders = key := by
  unfold key?
  split
  · rename_i read
    rw [Option.some.injEq, and_iff_right read]
  · rename_i unread
    constructor
    · intro none
      cases none
    · rintro ⟨read, _⟩
      exact absurd read unread

theorem unread_of_keyless {layer : CacheLayer} {request : Request}
    (keyless : layer.key? request = none) : Policy.isCacheableMethod request.method = false := by
  refine Bool.eq_false_iff.mpr fun read => ?_
  rw [key?, if_pos read] at keyless
  cases keyless

theorem look_of_keyless {layer : CacheLayer} {request : Request} (keyless : layer.key? request = none)
    (now : WallClock) : layer.look now request = (none, layer) := by
  rw [look, keyless]

theorem look_of_key {layer : CacheLayer} {request : Request} {key : String}
    (keyed : layer.key? request = some key) (now : WallClock) :
    layer.look now request = layer.get now key := by
  rw [look, keyed]

theorem read_of_found {layer : CacheLayer} {now : WallClock} {request : Request} {entry : Entry}
    (found : (layer.look now request).1 = some entry) :
    Policy.isCacheableMethod request.method = true := by
  cases keyed : layer.key? request with
  | none =>
      rw [look_of_keyless keyed] at found
      cases found
  | some key => exact (key?_eq_some_iff.mp keyed).1

end CacheLayer

def Admission.asked (admission : Admission) (now : Instant) (request : Request) : Admission :=
  { admission with
    limiter := (admission.limiter.allow now (Gateway.callerKey admission request)).2 }

namespace Gateway

/-! ### What leaves the store alone -/

theorem record_cache (gateway : Gateway) (change : Metrics → Metrics) :
    (gateway.record change).cache = gateway.cache := by
  unfold record
  split <;> rfl

theorem record_clock (gateway : Gateway) (change : Metrics → Metrics) :
    (gateway.record change).clock = gateway.clock := by
  unfold record
  split <;> rfl

theorem record_admission (gateway : Gateway) (change : Metrics → Metrics) :
    (gateway.record change).admission = gateway.admission := by
  unfold record
  split <;> rfl

theorem close_cache (gateway : Gateway) (request : Request) (begun : Instant) (outcome : Outcome) :
    (gateway.close request begun outcome).cache = gateway.cache := by
  cases outcome with
  | answered response => exact record_cache gateway _
  | pending => rfl
  | broken => rfl

theorem abandon_cache (gateway : Gateway) : gateway.abandon.cache = gateway.cache :=
  record_cache gateway Metrics.leave

theorem scrape_eq (gateway : Gateway) (path : String) (method : Method) (target : Target) :
    (gateway.scrape path method target).1 =
      { gateway with metrics := (gateway.scrape path method target).1.metrics } := by
  have observed : gateway.observe = { gateway with metrics := gateway.observe.metrics } := by
    unfold observe
    split <;> rfl
  unfold scrape
  split
  · rfl
  · split
    · exact observed
    · rfl

theorem scrape_cache (gateway : Gateway) (path : String) (method : Method) (target : Target) :
    (gateway.scrape path method target).1.cache = gateway.cache := by
  rw [scrape_eq]

/-! ### The limiter -/

def admits (gateway : Gateway) (request : Request) : Bool :=
  match gateway.admission with
  | none => true
  | some admission =>
    (admission.limiter.allow gateway.clock.monotonic (callerKey admission request)).1

theorem admits_eq {gateway : Gateway} {admission : Admission}
    (limited : gateway.admission = some admission) (request : Request) :
    gateway.admits request =
      (admission.limiter.allow gateway.clock.monotonic (callerKey admission request)).1 := by
  rw [admits, limited]

def charged (gateway : Gateway) (request : Request) : Gateway :=
  { gateway with
    admission := gateway.admission.map fun admission =>
      admission.asked gateway.clock.monotonic request }

def forecast? (gateway : Gateway) (request : Request) : Option Duration :=
  gateway.admission.bind fun admission =>
    admission.limiter.wait? gateway.clock.monotonic (callerKey admission request)

def deny (gateway : Gateway) (request : Request) : Exchange :=
  match gateway.forecast? request with
  | none => ⟨gateway, .broken, none⟩
  | some wait =>
    ⟨gateway.record Metrics.countDrop,
      .answered (GatewayError.rateLimited (retryAfter wait)).response, none⟩

/-- Every request takes the same step on the limiter, and only then is it answered or denied. -/
theorem passLimiter_eq (gateway : Gateway) (request : Request) (origin : Origin) :
    gateway.passLimiter request origin =
      if gateway.admits request then (gateway.charged request).answer request origin
      else (gateway.charged request).deny request := by
  cases limited : gateway.admission with
  | none =>
      have uncharged : gateway.charged request = gateway := by
        rw [charged, limited, Option.map_none, ← limited]
      rw [uncharged, passLimiter, admits, limited]
      rfl
  | some admission =>
      rw [admits_eq limited, deny, forecast?, charged, passLimiter, limited]
      rfl

theorem deny_asked (gateway : Gateway) (request : Request) : (gateway.deny request).asked = none := by
  unfold deny
  split <;> rfl

theorem deny_cache (gateway : Gateway) (request : Request) :
    (gateway.deny request).gateway.cache = gateway.cache := by
  unfold deny
  split
  · rfl
  · exact record_cache gateway Metrics.countDrop

/-! ### The proxy -/

theorem answer_of_proxied {request : Request} (proxied : Route.ofPath request.target.path = .proxied)
    (gateway : Gateway) (origin : Origin) :
    gateway.answer request origin = gateway.proxy request origin := by
  simp only [answer, proxied]

theorem proxy_of_unlayered {gateway : Gateway} (unlayered : gateway.cache = none) (request : Request)
    (origin : Origin) :
    gateway.proxy request origin = gateway.ask request (gateway.key? request) origin := by
  simp only [proxy, key?, unlayered, Option.bind_none]

/-- The counts once the service is about to be asked: a read counts as a miss. -/
def countSent (metrics : Metrics) (request : Request) : Metrics :=
  if Policy.isCacheableMethod request.method then
    metrics.countMiss request.method request.target.path
  else metrics

def looked (gateway : Gateway) (layer : CacheLayer) (request : Request) : Gateway :=
  { gateway with cache := some (layer.look gateway.clock.wall request).2 }

def waiting (gateway : Gateway) (layer : CacheLayer) (request : Request) : Gateway :=
  (gateway.looked layer request).record fun metrics => countSent metrics request

section

variable {gateway : Gateway} {layer : CacheLayer} {request : Request}

theorem waiting_cache (gateway : Gateway) (layer : CacheLayer) (request : Request) :
    (gateway.waiting layer request).cache = some (layer.look gateway.clock.wall request).2 :=
  record_cache _ _

theorem waiting_clock (gateway : Gateway) (layer : CacheLayer) (request : Request) :
    (gateway.waiting layer request).clock = gateway.clock :=
  record_clock _ _

theorem proxy_of_found (layered : gateway.cache = some layer) {entry : Entry}
    (found : (layer.look gateway.clock.wall request).1 = some entry) (origin : Origin) :
    gateway.proxy request origin =
      ⟨(gateway.looked layer request).record (·.countHit request.method request.target.path),
        .answered (Replay.answer entry request), none⟩ := by
  cases keyed : layer.key? request with
  | none =>
      rw [CacheLayer.look_of_keyless keyed] at found
      cases found
  | some key =>
      have look := CacheLayer.look_of_key keyed gateway.clock.wall
      rw [look] at found
      simp only [proxy, layered, keyed, found, looked, look]

/-- For what is not found the service is asked. A request without a key is not looked for. -/
theorem proxy_of_absent (layered : gateway.cache = some layer)
    (absent : (layer.look gateway.clock.wall request).1 = none) (origin : Origin) :
    gateway.proxy request origin =
      (gateway.waiting layer request).ask request ((gateway.waiting layer request).key? request)
        origin := by
  cases keyed : layer.key? request with
  | none =>
      have untouched : gateway.waiting layer request = gateway := by
        rw [waiting, looked, CacheLayer.look_of_keyless keyed, ← layered]
        simp only [record, countSent, CacheLayer.unread_of_keyless keyed, Bool.false_eq_true,
          if_false, ite_self]
      rw [untouched, key?, layered, Option.bind_some, keyed]
      simp only [proxy, layered, keyed]
  | some key =>
      have look := CacheLayer.look_of_key keyed gateway.clock.wall
      rw [look] at absent
      have read := (CacheLayer.key?_eq_some_iff.mp keyed).1
      have stillKeyed : (gateway.waiting layer request).key? request = some key := by
        rw [key?, waiting_cache, look, Option.bind_some]
        exact keyed
      rw [stillKeyed]
      simp only [proxy, layered, keyed, absent, waiting, looked, look, countSent, read, if_true]

end

/-! ### The three ways -/

/-- A request comes as far as the proxy. -/
structure Reaches (gateway : Gateway) (request : Request) : Prop where
  admitted : gateway.admits request = true
  proxied : Route.ofPath request.target.path = .proxied

/-- The ways of a request, with what each does to the store. -/
inductive Passage (gateway : Gateway) (request : Request) (origin : Origin) : Exchange → Prop where
  | aside {exchange : Exchange} (apart : ¬gateway.Reaches request)
      (unasked : exchange.asked = none) (untouched : exchange.gateway.cache = gateway.cache) :
      Passage gateway request origin exchange
  | replayed {exchange : Exchange} (layer : CacheLayer) (entry : Entry)
      (reached : gateway.Reaches request) (layered : gateway.cache = some layer)
      (found : (layer.look gateway.clock.wall request).1 = some entry)
      (unasked : exchange.asked = none)
      (answered : exchange.outcome = .answered (Replay.answer entry request))
      (looked : exchange.gateway.cache = some (layer.look gateway.clock.wall request).2) :
      Passage gateway request origin exchange
  | sent {waiting : Gateway} (reached : gateway.Reaches request)
      (absent : ∀ layer, gateway.cache = some layer →
        (layer.look gateway.clock.wall request).1 = none)
      (looked : waiting.cache =
        gateway.cache.map fun layer => (layer.look gateway.clock.wall request).2)
      (sameClock : waiting.clock = gateway.clock) :
      Passage gateway request origin (waiting.ask request (waiting.key? request) origin)

theorem proxy_passage {outer gateway : Gateway} {request : Request} (reached : outer.Reaches request)
    (sameCache : gateway.cache = outer.cache) (sameClock : gateway.clock = outer.clock)
    (origin : Origin) : Passage outer request origin (gateway.proxy request origin) := by
  cases layered : gateway.cache with
  | none =>
      have unlayered : outer.cache = none := sameCache.symm.trans layered
      rw [proxy_of_unlayered layered]
      refine .sent reached ?_ ?_ sameClock
      · intro layer held
        rw [unlayered] at held
        cases held
      · rw [layered, unlayered, Option.map_none]
  | some layer =>
      have held : outer.cache = some layer := sameCache.symm.trans layered
      cases found : (layer.look gateway.clock.wall request).1 with
      | some entry =>
          rw [proxy_of_found layered found]
          rw [sameClock] at found
          refine .replayed layer entry reached held found rfl rfl ?_
          rw [record_cache, looked, sameClock]
      | none =>
          rw [proxy_of_absent layered found]
          rw [sameClock] at found
          refine .sent reached ?_ ?_ ((waiting_clock _ _ _).trans sameClock)
          · intro other same
            cases held.symm.trans same
            exact found
          · rw [waiting_cache, held, Option.map_some, sameClock]

theorem answer_of_own {request : Request} (own : Route.ofPath request.target.path ≠ .proxied)
    (gateway : Gateway) (origin : Origin) :
    (gateway.answer request origin).asked = none ∧
      (gateway.answer request origin).gateway = gateway := by
  unfold answer
  cases routed : Route.ofPath request.target.path with
  | proxied => exact absurd routed own
  | health =>
      dsimp only
      split <;> exact ⟨rfl, rfl⟩
  | ready =>
      dsimp only
      split <;> exact ⟨rfl, rfl⟩

theorem answer_passage {outer gateway : Gateway} {request : Request}
    (admitted : outer.admits request = true) (sameCache : gateway.cache = outer.cache)
    (sameClock : gateway.clock = outer.clock) (origin : Origin) :
    Passage outer request origin (gateway.answer request origin) := by
  by_cases routed : Route.ofPath request.target.path = .proxied
  · rw [answer_of_proxied routed]
    exact proxy_passage ⟨admitted, routed⟩ sameCache sameClock origin
  · obtain ⟨unasked, same⟩ := answer_of_own routed gateway origin
    refine .aside ?_ unasked ?_
    · intro reached
      exact routed reached.proxied
    · rw [same, sameCache]

theorem passLimiter_passage {outer gateway : Gateway} (sameCache : gateway.cache = outer.cache)
    (sameClock : gateway.clock = outer.clock) (sameLimiter : gateway.admission = outer.admission)
    (request : Request) (origin : Origin) :
    Passage outer request origin (gateway.passLimiter request origin) := by
  have decided : gateway.admits request = outer.admits request := by
    rw [admits, admits, sameLimiter, sameClock]
  rw [passLimiter_eq, decided]
  split
  · rename_i admitted
    have chargedCache : (gateway.charged request).cache = outer.cache := sameCache
    have chargedClock : (gateway.charged request).clock = outer.clock := sameClock
    exact answer_passage admitted chargedCache chargedClock origin
  · rename_i denied
    refine .aside ?_ (deny_asked _ _) ((deny_cache _ _).trans sameCache)
    intro reached
    exact denied reached.admitted

/-- A request that comes in passes the gateway in one of the three ways. Around that it is counted
and its answer completed. -/
theorem exchange_passage (gateway : Gateway) (arrival : Arrival) :
    ∃ inner, Passage gateway arrival.identified arrival.origin inner ∧
      (arrival.exchange gateway).asked = inner.asked ∧
      (arrival.exchange gateway).outcome = finishOutcome arrival.identified inner.outcome ∧
      (arrival.exchange gateway).gateway.cache = inner.gateway.cache := by
  have passage := passLimiter_passage (record_cache gateway Metrics.enter)
    (record_clock gateway Metrics.enter) (record_admission gateway Metrics.enter)
    arrival.identified arrival.origin
  exact ⟨_, passage, rfl, rfl, close_cache _ _ _ _⟩

/-! ### The answer as it leaves -/

theorem propagate_values (request : Request) (response : Response) {name : HeaderName}
    (other : name ≠ RequestId.header) :
    (RequestId.propagate request response).headers.values name = response.headers.values name := by
  unfold RequestId.propagate
  split
  · rfl
  · split
    · exact response.headers.values_append_of_ne _ other
    · rfl

theorem complete_values (response : Response) {name : HeaderName}
    (other : name ≠ ContentLength.header) :
    (ContentLength.complete response).headers.values name = response.headers.values name := by
  unfold ContentLength.complete
  split
  · rfl
  · exact response.headers.values_append_of_ne _ other

theorem owned_values (method : Method) (response : Response) {name : HeaderName}
    (length : name ≠ ContentLength.header) (allowed : name ≠ OwnRoute.allowed) :
    (OwnRoute.finish method response).headers.values name = response.headers.values name := by
  have completed := complete_values response length
  unfold OwnRoute.finish
  dsimp only
  split <;> split
  · exact completed
  · exact (Headers.values_append_of_ne _ _ allowed).trans completed
  · exact completed
  · exact (Headers.values_append_of_ne _ _ allowed).trans completed

theorem finish_propagated (request : Request) (response : Response) {name : HeaderName}
    (length : name ≠ ContentLength.header) (allowed : name ≠ OwnRoute.allowed) :
    (finish request response).headers.values name =
      (RequestId.propagate request response).headers.values name := by
  unfold finish
  dsimp only
  split
  · exact owned_values _ _ length allowed
  · exact complete_values _ length

/-- What the proxy answers leaves with an identifier and a length, and else as it is. -/
theorem finish_values {request : Request} (proxied : Route.ofPath request.target.path = .proxied)
    (response : Response) {name : HeaderName} (identifier : name ≠ RequestId.header)
    (length : name ≠ ContentLength.header) :
    (finish request response).headers.values name = response.headers.values name := by
  have foreign : (Route.ofPath request.target.path).isOwn = false := by
    rw [proxied]
    rfl
  rw [finish, foreign, if_neg Bool.false_ne_true, complete_values _ length,
    propagate_values request response identifier]

end Gateway

end CachingGateway
