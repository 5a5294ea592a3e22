/-
The course of a request: whether the gateway answers it by itself or asks the service does not hang
on what the service answers. So a request may be begun before the answer is there and resumed with
it.
-/

import CachingGateway.Gateway.Resumption

namespace CachingGateway

namespace Gateway

/-- The two ways a request can go: the gateway answers it by itself, or sends it to the service. -/
inductive Course (request : Request) (run : Origin → Exchange) : Prop where
  | own (exchange : Exchange) (unasked : exchange.asked = none)
      (same : ∀ origin, run origin = exchange)
  | sent (gateway : Gateway)
      (same : ∀ origin, run origin = gateway.ask request (gateway.key? request) origin)

theorem proxy_course (gateway : Gateway) (request : Request) :
    Course request (gateway.proxy request) := by
  cases layered : gateway.cache with
  | none => exact .sent gateway fun origin => by simp [proxy, key?, layered]
  | some layer =>
    cases keyed : layer.key? request with
    | none => exact .sent gateway fun origin => by simp [proxy, key?, layered, keyed]
    | some key =>
      cases found : (layer.get gateway.clock.wall key).1 with
      | some entry =>
        refine .own (gateway.proxy request .silent) ?_ fun origin => ?_ <;>
          simp [proxy, layered, keyed, found]
      | none =>
        have keyedStill : (layer.get gateway.clock.wall key).2.key? request = some key := by
          simpa [CacheLayer.get, CacheLayer.key?] using keyed
        refine .sent (record { gateway with cache := some (layer.get gateway.clock.wall key).2 }
          (·.countMiss request.method request.target.path)) fun origin => ?_
        have keyedThere : key? (record
            { gateway with cache := some (layer.get gateway.clock.wall key).2 }
            (·.countMiss request.method request.target.path)) request = some key := by
          unfold record
          split <;> simp [key?, keyedStill]
        simp [proxy, layered, keyed, found, keyedThere]

theorem answer_course (gateway : Gateway) (request : Request) :
    Course request (gateway.answer request) := by
  cases routed : Route.ofPath request.target.path with
  | proxied =>
    have same : gateway.answer request = gateway.proxy request := by
      funext origin
      simp [answer, routed]
    exact same ▸ proxy_course gateway request
  | health =>
    refine .own (gateway.answer request .silent) ?_ fun origin => ?_ <;> simp only [answer, routed]
    split <;> rfl
  | ready =>
    refine .own (gateway.answer request .silent) ?_ fun origin => ?_ <;> simp only [answer, routed]
    split <;> rfl

theorem passLimiter_course (gateway : Gateway) (request : Request) :
    Course request (gateway.passLimiter request) := by
  cases limited : gateway.admission with
  | none =>
    have same : gateway.passLimiter request = gateway.answer request := by
      funext origin
      simp [passLimiter, limited]
    exact same ▸ answer_course gateway request
  | some admission =>
    cases admitted :
      (admission.limiter.allow gateway.clock.monotonic (callerKey admission request)).1 with
    | true =>
      have same : gateway.passLimiter request = answer
          { gateway with
            admission := some { admission with
              limiter := (admission.limiter.allow gateway.clock.monotonic
                (callerKey admission request)).2 } } request := by
        funext origin
        simp [passLimiter, limited, admitted]
      exact same ▸ answer_course _ request
    | false =>
      refine .own (gateway.passLimiter request .silent) ?_ fun origin => ?_
      · simp only [passLimiter, limited, admitted]
        cases Limiter.wait? (Limiter.allow admission.limiter gateway.clock.monotonic
          (callerKey admission request)).2 gateway.clock.monotonic (callerKey admission request) <;>
          simp
      · simp [passLimiter, limited, admitted]

theorem ask_silent (gateway : Gateway) (request : Request) (key : Option String) :
    gateway.ask request key .silent = ⟨gateway, .pending, some request⟩ := by
  simp [ask, Origin.silent, hear, advance, Clock.advance, WallClock.advance, Instant.advance,
    Duration.zero]

theorem key?_advance (gateway : Gateway) (length : Duration) (request : Request) :
    (gateway.advance length).key? request = gateway.key? request := rfl

/-- A request that the service is asked may be begun, and resumed once the service has answered. -/
theorem handle_eq_resume (gateway : Gateway) (fresh : Octets) (request asked : Request)
    (origin : Origin) (sent : (gateway.begin fresh request).asked = some asked) :
    gateway.handle fresh request origin =
      let reply := origin asked
      let resumed := ((gateway.begin fresh request).gateway.advance reply.delay).resume
        gateway.clock.monotonic asked reply.answer
      ⟨resumed.1, resumed.2, some asked⟩ := by
  cases passLimiter_course (gateway.record Metrics.enter) (RequestId.assign request fresh) with
  | own exchange unasked same =>
    simp [begin, handle, measure, same, unasked] at sent
  | sent waiting same =>
    simp only [begin, handle, measure, same, ask_silent, Option.some.injEq] at sent ⊢
    subst sent
    simp [ask, resume, key?_advance, close]

theorem handle_eq_begin (gateway : Gateway) (fresh : Octets) (request : Request)
    (origin : Origin) (own : (gateway.begin fresh request).asked = none) :
    gateway.handle fresh request origin = gateway.begin fresh request := by
  cases passLimiter_course (gateway.record Metrics.enter) (RequestId.assign request fresh) with
  | own exchange unasked same => simp [begin, handle, measure, same]
  | sent waiting same => simp [begin, handle, measure, same, ask_silent] at own

end Gateway

end CachingGateway
