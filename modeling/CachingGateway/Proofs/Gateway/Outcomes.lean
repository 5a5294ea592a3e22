/-
What becomes of a request. The gateway answers some requests by itself, with few statuses. All others
get the response of the service, and it is marked and tagged by the same rule whether it comes at once
or from the store. Beside the store and the counts a request changes only the limiter, and the clocks
only while the service makes it wait.
-/

import CachingGateway.Proofs.Gateway.HitProvenance

namespace CachingGateway

/-! ### Requests as the gateway carries them -/

theorem Arrival.identified_contains (arrival : Arrival) {name : HeaderName}
    (other : name ≠ RequestId.header) :
    arrival.identified.headers.contains name = arrival.request.headers.contains name := by
  unfold identified RequestId.assign
  split
  · rfl
  · have apart : decide (RequestId.header = name) = false := decide_eq_false (Ne.symm other)
    rw [Headers.contains_append, apart, Bool.or_false]

theorem RequestId.assign_target (request : Request) (fresh : Octets) :
    (RequestId.assign request fresh).target = request.target := by
  unfold RequestId.assign
  split <;> rfl

theorem RequestId.assign_method (request : Request) (fresh : Octets) :
    (RequestId.assign request fresh).method = request.method :=
  Arrival.identified_method ⟨fresh, request, .silent⟩

/-! ### Responses of the service -/

namespace Replay

def marked (method : Method) (mark : Octets) (response : Response) : Response :=
  { response with
    headers :=
      if Policy.isCacheable method response.status response.headers then
        (response.headers.replace cacheMark mark).replace entityTag
          (Octets.ofText (Policy.entityTag response.body))
      else response.headers.replace cacheMark mark }

theorem tag_entityTag (headers : Headers) (body : Octets) :
    tag headers (Policy.entityTag body) =
      headers.replace entityTag (Octets.ofText (Policy.entityTag body)) := by
  have filled : (Policy.entityTag body).isEmpty = false :=
    Deposit.tag_not_empty ⟨"", ⟨.ok, Headers.empty, body⟩, ⟨0⟩⟩
  rw [tag, filled, if_neg Bool.false_ne_true]

end Replay

/-- What an answer of the service comes to at a gateway with a store. -/
def OriginAnswer.proxied (method : Method) (mark : Octets) : OriginAnswer → Outcome
  | .response reply => .answered (Replay.marked method mark reply)
  | .failure error =>
    .answered ⟨error.status, error.headers.replace Replay.cacheMark mark, error.body⟩
  | .silence => .pending

/-- A client that names no tag is answered from a deposit as it would be by the service. -/
theorem Deposit.answer_of_unnamed {deposit : Deposit} {request : Request}
    (storable : Policy.isCacheable request.method deposit.response.status
      deposit.response.headers = true)
    (unnamed : request.headers.firstText? Replay.ifNoneMatch = none) :
    deposit.answer request = Replay.marked request.method Replay.hit deposit.response := by
  rw [answer, unnamed, if_neg (by simp), Replay.marked, if_pos storable]
  rfl

namespace Gateway

theorem receive_answer {gateway : Gateway} {layer : CacheLayer} (layered : gateway.cache = some layer)
    (request : Request) (response : Response) :
    (gateway.receive request (layer.key? request) response).2 =
      Replay.marked request.method Replay.miss response := by
  simp only [receive, layered]
  cases keyed : layer.key? request with
  | none =>
      have unread := CacheLayer.unread_of_keyless keyed
      have unstorable : Policy.isCacheable request.method response.status response.headers = false := by
        rw [Policy.isCacheable, unread, Bool.false_and, Bool.false_and]
      rw [Replay.marked, unstorable, if_neg Bool.false_ne_true]
      rfl
  | some key =>
      by_cases storable : Policy.isCacheable request.method response.status response.headers = true
      · simp only [if_pos storable, Replay.tag_entityTag, Replay.marked, Replay.markMiss]
      · simp only [if_neg storable, Replay.marked, Replay.markMiss]

theorem ask_outcome {gateway : Gateway} {layer : CacheLayer} (layered : gateway.cache = some layer)
    (request : Request) (origin : Origin) :
    (gateway.ask request (gateway.key? request) origin).outcome =
      (origin request).answer.proxied request.method Replay.miss := by
  have keyed : gateway.key? request = layer.key? request := by
    rw [key?, layered, Option.bind_some]
  have waiting : (gateway.advance (origin request).delay).cache = some layer := layered
  rw [keyed]
  change ((gateway.advance (origin request).delay).hear request (layer.key? request)
    (origin request).answer).2 = _
  cases (origin request).answer with
  | silence => rfl
  | failure error =>
      rw [hear, receiveFailure, waiting, Option.isSome_some, if_pos rfl]
      rfl
  | response response => exact congrArg Outcome.answered (receive_answer waiting request response)

/-- A request that comes as far as the proxy is answered from the store, or gets what the service
answers. -/
theorem reached_outcome {gateway : Gateway} {layer : CacheLayer} (layered : gateway.cache = some layer)
    {arrival : Arrival} (reached : gateway.Reaches arrival.identified) :
    (∃ entry, (layer.look gateway.clock.wall arrival.identified).1 = some entry ∧
        (arrival.exchange gateway).asked = none ∧
        (arrival.exchange gateway).outcome = finishOutcome arrival.identified
          (.answered (Replay.answer entry arrival.identified))) ∨
      ((layer.look gateway.clock.wall arrival.identified).1 = none ∧
        (arrival.exchange gateway).asked = some arrival.identified ∧
        (arrival.exchange gateway).outcome = finishOutcome arrival.identified
          ((arrival.origin arrival.identified).answer.proxied arrival.request.method
            Replay.miss)) := by
  obtain ⟨inner, passage, asked, outcome, _⟩ := gateway.exchange_passage arrival
  rw [asked, outcome]
  cases passage with
  | aside apart unasked untouched => exact absurd reached apart
  | replayed held entry _ same found unasked answered looked =>
      cases layered.symm.trans same
      exact Or.inl ⟨entry, found, unasked, congrArg _ answered⟩
  | sent _ absent looked sameClock =>
      rw [layered, Option.map_some] at looked
      rw [ask_outcome looked, arrival.identified_method]
      exact Or.inr ⟨absent layer layered, rfl, rfl⟩

/-! ### Responses of the gateway itself -/

def ownStatuses : List Status :=
  [.ok, .methodNotAllowed, .tooManyRequests, .internalError, .badGateway, .gatewayTimeout]

theorem error_status_mem (error : GatewayError) : error.response.status ∈ ownStatuses := by
  change error.status ∈ ownStatuses
  cases error <;> simp [GatewayError.status, ownStatuses]

def ownResponse (path : String) (method : Method) (now : WallClock) : Response :=
  if OwnRoute.answers method then
    OwnRoute.probe (if Route.ofPath path = .health then "healthy" else "ready") now
  else OwnRoute.bare .methodNotAllowed

theorem ownResponse_status (path : String) (method : Method) (now : WallClock) :
    (ownResponse path method now).status ∈ ownStatuses := by
  unfold ownResponse
  split
  · exact List.mem_cons_self
  · exact List.mem_cons_of_mem _ List.mem_cons_self

theorem answer_outcome_of_own {request : Request}
    (own : Route.ofPath request.target.path ≠ .proxied) (gateway : Gateway) (origin : Origin) :
    (gateway.answer request origin).outcome =
      .answered (ownResponse request.target.path request.method gateway.clock.wall) := by
  unfold answer ownResponse
  cases routed : Route.ofPath request.target.path with
  | proxied => exact absurd routed own
  | health =>
      dsimp only
      split <;> rfl
  | ready =>
      dsimp only
      split <;> rfl

theorem passLimiter_of_unlimited {gateway : Gateway} (unlimited : gateway.admission = none)
    (request : Request) (origin : Origin) :
    gateway.passLimiter request origin = gateway.answer request origin := by
  simp only [passLimiter, unlimited]

theorem deny_outcome (gateway : Gateway) (request : Request) :
    (gateway.deny request).outcome = .broken ∨ ∃ wait, (gateway.deny request).outcome =
      .answered (GatewayError.rateLimited (retryAfter wait)).response := by
  unfold deny
  split
  · exact Or.inl rfl
  · exact Or.inr ⟨_, rfl⟩

/-- A request that does not reach the proxy gets the answer of a probe or an error. -/
theorem passLimiter_own {gateway : Gateway} {request : Request} (apart : ¬gateway.Reaches request)
    {origin : Origin} {response : Response}
    (answered : (gateway.passLimiter request origin).outcome = .answered response) :
    (∃ now, response = ownResponse request.target.path request.method now) ∨
      ∃ error : GatewayError, response = error.response := by
  rw [passLimiter_eq] at answered
  split at answered
  · rename_i admitted
    have own : Route.ofPath request.target.path ≠ .proxied :=
      fun proxied => apart ⟨admitted, proxied⟩
    rw [answer_outcome_of_own own] at answered
    cases answered
    exact Or.inl ⟨_, rfl⟩
  · rcases deny_outcome (gateway.charged request) request with broke | ⟨wait, told⟩
    · cases answered.symm.trans broke
    · cases answered.symm.trans told
      exact Or.inr ⟨_, rfl⟩

theorem passLimiter_status {gateway : Gateway} {request : Request} (apart : ¬gateway.Reaches request)
    {origin : Origin} {response : Response}
    (answered : (gateway.passLimiter request origin).outcome = .answered response) :
    response.status ∈ ownStatuses := by
  rcases passLimiter_own apart answered with ⟨now, rfl⟩ | ⟨error, rfl⟩
  · exact ownResponse_status _ _ _
  · exact error_status_mem error

theorem admits_record (gateway : Gateway) (change : Metrics → Metrics) (request : Request) :
    (gateway.record change).admits request = gateway.admits request := by
  rw [admits, admits, record_admission, record_clock]

theorem reaches_record (gateway : Gateway) (change : Metrics → Metrics) (request : Request) :
    (gateway.record change).Reaches request ↔ gateway.Reaches request := by
  have same := gateway.admits_record change request
  constructor
  · intro reached
    exact ⟨same.symm.trans reached.admitted, reached.proxied⟩
  · intro reached
    exact ⟨same.trans reached.admitted, reached.proxied⟩

theorem exchange_outcome (gateway : Gateway) (arrival : Arrival) :
    (arrival.exchange gateway).outcome = finishOutcome arrival.identified
      ((gateway.record Metrics.enter).passLimiter arrival.identified arrival.origin).outcome :=
  rfl

theorem finishOutcome_eq_answered_iff {request : Request} {outcome : Outcome} {response : Response} :
    finishOutcome request outcome = .answered response ↔
      ∃ plain, outcome = .answered plain ∧ response = finish request plain := by
  cases outcome with
  | answered plain =>
      constructor
      · rintro ⟨⟩
        exact ⟨plain, rfl, rfl⟩
      · rintro ⟨other, ⟨⟩, rfl⟩
        rfl
  | pending =>
      constructor
      · rintro ⟨⟩
      · rintro ⟨_, ⟨⟩, _⟩
  | broken =>
      constructor
      · rintro ⟨⟩
      · rintro ⟨_, ⟨⟩, _⟩

theorem finish_status (request : Request) (response : Response) :
    (finish request response).status = response.status := by
  have propagated : (RequestId.propagate request response).status = response.status := by
    unfold RequestId.propagate
    split
    · rfl
    · split <;> rfl
  have completed (whole : Response) : (ContentLength.complete whole).status = whole.status := by
    unfold ContentLength.complete
    split <;> rfl
  have owned (whole : Response) : (OwnRoute.finish request.method whole).status = whole.status := by
    unfold OwnRoute.finish
    dsimp only
    split <;> split <;> exact completed whole
  unfold finish
  dsimp only
  split
  · rw [owned, propagated]
  · rw [completed, propagated]

/-! ### What a request leaves alone -/

structure Keeps (before after : Gateway) : Prop where
  clock : after.clock = before.clock
  admission : after.admission = before.admission

theorem Keeps.trans {first second third : Gateway} (start : first.Keeps second)
    (rest : second.Keeps third) : first.Keeps third where
  clock := rest.clock.trans start.clock
  admission := rest.admission.trans start.admission

theorem record_keeps (gateway : Gateway) (change : Metrics → Metrics) :
    gateway.Keeps (gateway.record change) where
  clock := record_clock gateway change
  admission := record_admission gateway change

theorem deny_keeps (gateway : Gateway) (request : Request) :
    gateway.Keeps (gateway.deny request).gateway := by
  unfold deny
  split
  · exact ⟨rfl, rfl⟩
  · exact record_keeps gateway Metrics.countDrop

theorem hear_keeps (gateway : Gateway) (request : Request) (key : Option String)
    (answer : OriginAnswer) : gateway.Keeps (gateway.hear request key answer).1 := by
  cases answer with
  | silence => exact ⟨rfl, rfl⟩
  | failure error => exact ⟨rfl, rfl⟩
  | response response =>
      simp only [hear, receive]
      split
      · exact ⟨rfl, rfl⟩
      · split
        · exact ⟨rfl, rfl⟩
        · split <;> exact ⟨rfl, rfl⟩

theorem passed_keeps (gateway : Gateway) (arrival : Arrival) :
    ((gateway.record Metrics.enter).passLimiter arrival.identified arrival.origin).gateway.Keeps
      (gateway.step (.arrival arrival)) := by
  have closed (inner : Gateway) (begun : Instant) (outcome : Outcome) :
      inner.Keeps (inner.close arrival.identified begun outcome) := by
    cases outcome with
    | answered response =>
        unfold close
        exact record_keeps inner _
    | pending => exact ⟨rfl, rfl⟩
    | broken => exact ⟨rfl, rfl⟩
  have settled (exchange : Exchange) : exchange.gateway.Keeps exchange.settled := by
    unfold Exchange.settled
    split
    · exact ⟨rfl, rfl⟩
    · exact record_keeps _ _
    · exact record_keeps _ _
  let inner := (gateway.record Metrics.enter).passLimiter arrival.identified arrival.origin
  exact (closed inner.gateway gateway.clock.monotonic inner.outcome).trans
    (settled (arrival.exchange gateway))

theorem advance_zero (gateway : Gateway) : gateway.advance Duration.zero = gateway := by
  simp [advance, Clock.advance, WallClock.advance, Instant.advance, Duration.zero]

section

variable {origin : Origin} (prompt : ∀ asked, (origin asked).delay = Duration.zero)

include prompt

theorem ask_keeps (gateway : Gateway) (request : Request) (key : Option String) :
    gateway.Keeps (gateway.ask request key origin).gateway := by
  have heard := (gateway.advance (origin request).delay).hear_keeps request key (origin request).answer
  rw [prompt, advance_zero] at heard
  simp only [ask, prompt, advance_zero]
  exact heard

theorem proxy_keeps (gateway : Gateway) (request : Request) :
    gateway.Keeps (gateway.proxy request origin).gateway := by
  cases layered : gateway.cache with
  | none =>
      rw [proxy_of_unlayered layered]
      exact ask_keeps prompt gateway request _
  | some layer =>
      have looked (change : Metrics → Metrics) :
          gateway.Keeps ((gateway.looked layer request).record change) :=
        ⟨record_clock _ change, record_admission _ change⟩
      cases found : (layer.look gateway.clock.wall request).1 with
      | some entry =>
          rw [proxy_of_found layered found]
          exact looked (·.countHit request.method request.target.path)
      | none =>
          rw [proxy_of_absent layered found]
          exact (looked _).trans (ask_keeps prompt _ request _)

theorem answer_keeps (gateway : Gateway) (request : Request) :
    gateway.Keeps (gateway.answer request origin).gateway := by
  by_cases routed : Route.ofPath request.target.path = .proxied
  · rw [answer_of_proxied routed]
    exact proxy_keeps prompt gateway request
  · rw [(answer_of_own routed gateway origin).2]
    exact ⟨rfl, rfl⟩

theorem arrival_keeps {gateway : Gateway} (unlimited : gateway.admission = none)
    (fresh : Octets) (request : Request) :
    gateway.Keeps (gateway.step (.arrival ⟨fresh, request, origin⟩)) := by
  have entered := record_keeps gateway Metrics.enter
  have unlimitedStill : (gateway.record Metrics.enter).admission = none :=
    entered.admission.trans unlimited
  have answered := entered.trans
    (answer_keeps prompt (gateway.record Metrics.enter) (RequestId.assign request fresh))
  rw [← passLimiter_of_unlimited unlimitedStill] at answered
  exact answered.trans (passed_keeps gateway ⟨fresh, request, origin⟩)

end

end Gateway

end CachingGateway
