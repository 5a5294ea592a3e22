/-
What a request does to the counts. On its way it is counted as a drop, as a hit or as a miss, or not at
all, and its answer is marked accordingly. Once it is answered it is counted under its method, its path
and the status of the answer.
-/

import CachingGateway.Proofs.Gateway.Outcomes

namespace CachingGateway

/-! ### Marks of answers -/

theorem Replay.answer_values (entry : Entry) (request : Request) :
    (answer entry request).headers.values cacheMark = [hit] := by
  have marked (headers : Headers) : (markHit headers entry).values cacheMark = [hit] := by
    unfold markHit tag
    split
    · exact headers.values_replace_self hit
    · rw [Headers.values_replace_of_ne _ _ (by decide), Headers.values_replace_self]
  unfold answer
  split
  · exact marked Headers.empty
  · exact marked entry.headers

/-- Whatever the service answers carries one mark, also if it brought marks of its own. -/
theorem OriginAnswer.proxied_values {answer : OriginAnswer} {method : Method} {mark : Octets}
    {response : Response} (answered : answer.proxied method mark = .answered response) :
    response.headers.values Replay.cacheMark = [mark] := by
  cases answer with
  | silence => cases answered
  | failure error =>
      cases answered
      exact error.headers.values_replace_self mark
  | response reply =>
      cases answered
      unfold Replay.marked
      dsimp only
      split
      · rw [Headers.values_replace_of_ne _ _ (by decide), Headers.values_replace_self]
      · exact reply.headers.values_replace_self mark

namespace Gateway

/-! ### The counts on the way -/

structure Reports (gateway : Gateway) (metrics : Metrics) : Prop where
  on : gateway.reports = true
  counts : gateway.metrics = metrics

variable {outer gateway : Gateway} {metrics : Metrics} {request : Request} {layer : CacheLayer}

theorem Reports.record (reporting : gateway.Reports metrics) (change : Metrics → Metrics) :
    (gateway.record change).Reports (change metrics) := by
  rw [Gateway.record, if_pos reporting.on]
  exact ⟨reporting.on, congrArg change reporting.counts⟩

theorem Reports.hear (reporting : gateway.Reports metrics) (request : Request) (key : Option String)
    (answer : OriginAnswer) : (gateway.hear request key answer).1.Reports metrics := by
  cases answer with
  | silence => exact reporting
  | failure error => exact reporting
  | response response =>
      simp only [Gateway.hear, receive]
      split
      · exact reporting
      · split
        · exact reporting
        · split
          · exact ⟨reporting.on, reporting.counts⟩
          · exact reporting

theorem Reports.ask (reporting : gateway.Reports metrics) (request : Request) (key : Option String)
    (origin : Origin) : (gateway.ask request key origin).gateway.Reports metrics := by
  have waiting : (gateway.advance (origin request).delay).Reports metrics :=
    ⟨reporting.on, reporting.counts⟩
  exact waiting.hear request key (origin request).answer

/-- What becomes of a request at a gateway with a store, and what is counted on its way. -/
inductive Fate (outer : Gateway) (metrics : Metrics) (request : Request) (origin : Origin) :
    Exchange → Prop where
  | denied {exchange : Exchange} (denied : outer.admits request = false)
      (unasked : exchange.asked = none) (counted : exchange.gateway.Reports metrics.countDrop) :
      Fate outer metrics request origin exchange
  | broken {exchange : Exchange} (denied : outer.admits request = false)
      (unasked : exchange.asked = none) (broke : exchange.outcome = .broken)
      (counted : exchange.gateway.Reports metrics) : Fate outer metrics request origin exchange
  | own {exchange : Exchange} (admitted : outer.admits request = true)
      (own : Route.ofPath request.target.path ≠ .proxied) (unasked : exchange.asked = none)
      (counted : exchange.gateway.Reports metrics) : Fate outer metrics request origin exchange
  | served {exchange : Exchange} (entry : Entry) (reached : outer.Reaches request)
      (read : Policy.isCacheableMethod request.method = true) (unasked : exchange.asked = none)
      (answered : exchange.outcome = .answered (Replay.answer entry request))
      (counted : exchange.gateway.Reports (metrics.countHit request.method request.target.path)) :
      Fate outer metrics request origin exchange
  | sent {exchange : Exchange} (reached : outer.Reaches request)
      (asked : exchange.asked = some request)
      (answered : exchange.outcome =
        (origin request).answer.proxied request.method Replay.miss)
      (counted : exchange.gateway.Reports (countSent metrics request)) :
      Fate outer metrics request origin exchange

theorem Fate.reports {origin : Origin} {inner : Exchange}
    (fate : Fate outer metrics request origin inner) :
    ∃ counted, inner.gateway.Reports counted := by
  cases fate with
  | denied denied unasked counted => exact ⟨_, counted⟩
  | broken denied unasked broke counted => exact ⟨_, counted⟩
  | own admitted own unasked counted => exact ⟨_, counted⟩
  | served entry reached read unasked answered counted => exact ⟨_, counted⟩
  | sent reached asked answered counted => exact ⟨_, counted⟩

theorem proxy_fate (reached : outer.Reaches request) (layered : gateway.cache = some layer)
    (reporting : gateway.Reports metrics) (origin : Origin) :
    Fate outer metrics request origin (gateway.proxy request origin) := by
  have lookedReports : (gateway.looked layer request).Reports metrics :=
    ⟨reporting.on, reporting.counts⟩
  cases found : (layer.look gateway.clock.wall request).1 with
  | some entry =>
      rw [proxy_of_found layered found]
      have counted := lookedReports.record (·.countHit request.method request.target.path)
      exact .served entry reached (CacheLayer.read_of_found found) rfl rfl counted
  | none =>
      rw [proxy_of_absent layered found]
      have counted := lookedReports.record (countSent · request)
      exact .sent reached rfl (ask_outcome (waiting_cache _ _ _) request origin)
        (counted.ask request _ origin)

theorem answer_fate (admitted : outer.admits request = true) (layered : gateway.cache = some layer)
    (reporting : gateway.Reports metrics) (origin : Origin) :
    Fate outer metrics request origin (gateway.answer request origin) := by
  by_cases routed : Route.ofPath request.target.path = .proxied
  · rw [answer_of_proxied routed]
    exact proxy_fate ⟨admitted, routed⟩ layered reporting origin
  · rcases answer_of_own routed gateway origin with ⟨unasked, same⟩
    refine .own admitted routed unasked ?_
    rw [same]
    exact reporting

theorem passLimiter_fate (sameLimiter : gateway.admission = outer.admission)
    (sameClock : gateway.clock = outer.clock) (layered : gateway.cache = some layer)
    (reporting : gateway.Reports metrics) (request : Request) (origin : Origin) :
    Fate outer metrics request origin (gateway.passLimiter request origin) := by
  have decided : gateway.admits request = outer.admits request := by
    rw [admits, admits, sameLimiter, sameClock]
  have chargedReports : (gateway.charged request).Reports metrics := ⟨reporting.on, reporting.counts⟩
  rw [passLimiter_eq, decided]
  split
  · rename_i admitted
    have chargedLayered : (gateway.charged request).cache = some layer := layered
    exact answer_fate admitted chargedLayered chargedReports origin
  · rename_i denied
    have turnedAway : outer.admits request = false := Bool.eq_false_iff.mpr denied
    unfold deny
    split
    · exact .broken turnedAway rfl rfl chargedReports
    · exact .denied turnedAway rfl (chargedReports.record Metrics.countDrop)

/-! ### The counts after a request -/

/-- The counts once a request is answered or given up. -/
def settle (counted : Metrics) (request : Request) (duration : Duration) : Outcome → Metrics
  | .answered response => (counted.countRequest (summary request response duration)).leave
  | .pending | .broken => counted.leave

theorem arrival_fate (layered : gateway.cache = some layer) (reporting : gateway.Reports metrics)
    (arrival : Arrival) :
    ∃ inner, Fate gateway metrics.enter arrival.identified arrival.origin inner ∧
      (arrival.exchange gateway).asked = inner.asked ∧
      (arrival.exchange gateway).outcome = finishOutcome arrival.identified inner.outcome ∧
      ∀ counted, inner.gateway.Reports counted → ∃ duration,
        (gateway.step (.arrival arrival)).Reports
          (settle counted arrival.identified duration inner.outcome) := by
  have entered := reporting.record Metrics.enter
  have fate := passLimiter_fate (record_admission gateway Metrics.enter)
    (record_clock gateway Metrics.enter) ((record_cache gateway Metrics.enter).trans layered) entered
    arrival.identified arrival.origin
  refine ⟨_, fate, rfl, rfl, ?_⟩
  intro counted counts
  let inner := (gateway.record Metrics.enter).passLimiter arrival.identified arrival.origin
  refine ⟨inner.gateway.clock.monotonic.elapsedSince gateway.clock.monotonic, ?_⟩
  change Reports (Exchange.settled ⟨inner.gateway.close _ _ inner.outcome,
    finishOutcome arrival.identified inner.outcome, _⟩) (settle counted _ _ inner.outcome)
  cases inner.outcome with
  | answered response =>
      exact counts.record fun metrics => (metrics.countRequest (summary arrival.identified response
        (inner.gateway.clock.monotonic.elapsedSince gateway.clock.monotonic))).leave
  | pending => exact counts.record Metrics.leave
  | broken => exact counts.record Metrics.leave

end Gateway

end CachingGateway
