/-
What the limiter of a gateway does to requests. Every request takes the same step on it, whatever comes
of the request after that. A denied request is told how long to wait, and the gateway fails on it when
there is no length of time to tell: never at a rate above the least one, and at any other rate with the
first request after a burst.
-/

import CachingGateway.Gateway.Course
import CachingGateway.Proofs.Gateway.Outcomes
import CachingGateway.Proofs.RateLimit.WaitLength

namespace CachingGateway

/-- A request is let through, and the gateway does not fail on it. -/
structure Arrival.PassedOn (arrival : Arrival) (gateway : Gateway) : Prop where
  admitted : gateway.admits arrival.identified = true
  unbroken : (arrival.exchange gateway).outcome ≠ .broken

/-- A request is denied, and its client is told when to come back. -/
structure Arrival.ToldToWait (arrival : Arrival) (gateway : Gateway) : Prop where
  denied : gateway.admits arrival.identified = false
  unasked : (arrival.exchange gateway).asked = none
  told : ∃ response wait, (arrival.exchange gateway).outcome = .answered response ∧
    response.status = .tooManyRequests ∧
    response.headers.values GatewayError.retryAfter =
      [Octets.ofText (toString (Gateway.retryAfter wait))]

/-- The limiter once an event has passed: only requests and sweeps do anything to it. -/
def Admission.after (admission : Admission) (now : Instant) : Event → Admission
  | .arrival arrival => admission.asked now arrival.identified
  | .sweep idle => { admission with limiter := admission.limiter.reclaim now idle }
  | .pause _ | .scrape _ _ _ => admission

theorem Admission.after_rule (admission : Admission) (now : Instant) (event : Event) :
    (admission.after now event).rule = admission.rule := by
  cases event <;> rfl

namespace Gateway

variable {gateway : Gateway} {admission : Admission} {request : Request} {origin : Origin}

/-! ### The step of the limiter -/

theorem answer_admission (gateway : Gateway) (request : Request) (origin : Origin) :
    (gateway.answer request origin).gateway.admission = gateway.admission := by
  have unanswered : (gateway.answer request .silent).gateway.admission = gateway.admission :=
    (answer_keeps (fun _ => rfl) gateway request).admission
  cases gateway.answer_course request with
  | own exchange unasked same =>
      rw [same] at unanswered ⊢
      exact unanswered
  | sent waiting same =>
      rw [same, ask_silent] at unanswered
      rw [same]
      have heard := (waiting.advance (origin request).delay).hear_keeps request
        (waiting.key? request) (origin request).answer
      exact heard.admission.trans unanswered

theorem passLimiter_admission (gateway : Gateway) (request : Request) (origin : Origin) :
    (gateway.passLimiter request origin).gateway.admission =
      gateway.admission.map fun admission => admission.asked gateway.clock.monotonic request := by
  rw [passLimiter_eq]
  split
  · exact answer_admission (gateway.charged request) request origin
  · exact (deny_keeps (gateway.charged request) request).admission

theorem arrival_admission (gateway : Gateway) (arrival : Arrival) :
    (gateway.step (.arrival arrival)).admission =
      gateway.admission.map fun admission =>
        admission.asked gateway.clock.monotonic arrival.identified := by
  have passed := (gateway.passed_keeps arrival).admission
  rw [passLimiter_admission, record_admission, record_clock] at passed
  exact passed

theorem passLimiter_clock (prompt : ∀ asked, (origin asked).delay = Duration.zero)
    (gateway : Gateway) (request : Request) :
    (gateway.passLimiter request origin).gateway.clock = gateway.clock := by
  rw [passLimiter_eq]
  split
  · exact (answer_keeps prompt (gateway.charged request) request).clock
  · exact (deny_keeps (gateway.charged request) request).clock

theorem arrival_clock (gateway : Gateway) {arrival : Arrival}
    (prompt : ∀ asked, (arrival.origin asked).delay = Duration.zero) :
    (gateway.step (.arrival arrival)).clock = gateway.clock := by
  have passed := (gateway.passed_keeps arrival).clock
  rw [passLimiter_clock prompt, record_clock] at passed
  exact passed

theorem scrape_admission (gateway : Gateway) (path : String) (method : Method) (target : Target) :
    (gateway.scrape path method target).1.admission = gateway.admission := by
  rw [scrape_eq]

theorem step_admission (gateway : Gateway) (event : Event) :
    (gateway.step event).admission =
      gateway.admission.map fun admission => admission.after gateway.clock.monotonic event := by
  cases event with
  | arrival arrival => exact gateway.arrival_admission arrival
  | pause length => exact Option.map_id'.symm
  | scrape path method target =>
      exact (gateway.scrape_admission path method target).trans Option.map_id'.symm
  | sweep idle => rfl

/-! ### Gateways that can tell every caller how long to wait -/

section

variable {limit : RateLimit Binary64} {rate : ℚ}

def Solvent (limit : RateLimit Binary64) (gateway : Gateway) : Prop :=
  ∃ admission, gateway.admission = some admission ∧ admission.limiter.Solvent limit

theorem Solvent.step (finite : limit.rate = .finite rate) (positive : 0 < rate)
    (small : limit.burst < 2 ^ 53) (solvent : gateway.Solvent limit) (event : Event) :
    (gateway.step event).Solvent limit := by
  rcases solvent with ⟨admission, limited, sound⟩
  refine ⟨admission.after gateway.clock.monotonic event, ?_, ?_⟩
  · rw [step_admission, limited, Option.map_some]
  · cases event with
    | arrival arrival => exact sound.allow finite positive small _ _
    | pause length => exact sound
    | scrape path method target => exact sound
    | sweep idle => exact sound.reclaim gateway.clock.monotonic idle

theorem Solvent.run (finite : limit.rate = .finite rate) (positive : 0 < rate)
    (small : limit.burst < 2 ^ 53) (solvent : gateway.Solvent limit) (events : List Event) :
    (gateway.run events).Solvent limit := by
  induction events generalizing gateway with
  | nil => exact solvent
  | cons event rest ih => exact ih (solvent.step finite positive small event)

end

/-! ### What becomes of a request -/

theorem ask_unbroken (gateway : Gateway) (request : Request) (key : Option String)
    (origin : Origin) : (gateway.ask request key origin).outcome ≠ .broken := by
  have heard (settled : Gateway) (answer : OriginAnswer) :
      (settled.hear request key answer).2 ≠ .broken := by
    cases answer with
    | response response => exact Outcome.noConfusion
    | failure error => exact Outcome.noConfusion
    | silence => exact Outcome.noConfusion
  exact heard _ _

theorem proxy_unbroken (gateway : Gateway) (request : Request) (origin : Origin) :
    (gateway.proxy request origin).outcome ≠ .broken := by
  cases layered : gateway.cache with
  | none =>
      rw [proxy_of_unlayered layered]
      exact ask_unbroken _ _ _ _
  | some layer =>
      cases found : (layer.look gateway.clock.wall request).1 with
      | some entry =>
          rw [proxy_of_found layered found]
          exact Outcome.noConfusion
      | none =>
          rw [proxy_of_absent layered found]
          exact ask_unbroken _ _ _ _

theorem answer_unbroken (gateway : Gateway) (request : Request) (origin : Origin) :
    (gateway.answer request origin).outcome ≠ .broken := by
  by_cases routed : Route.ofPath request.target.path = .proxied
  · rw [answer_of_proxied routed]
    exact proxy_unbroken gateway request origin
  · rw [answer_outcome_of_own routed]
    exact Outcome.noConfusion

theorem admitted_unbroken {arrival : Arrival}
    (admitted : gateway.admits arrival.identified = true) :
    (arrival.exchange gateway).outcome ≠ .broken := by
  have passed : ((gateway.record Metrics.enter).passLimiter arrival.identified
      arrival.origin).outcome ≠ .broken := by
    rw [passLimiter_eq, admits_record, if_pos admitted]
    exact answer_unbroken _ _ _
  intro broken
  rw [exchange_outcome] at broken
  cases outcome : ((gateway.record Metrics.enter).passLimiter arrival.identified
      arrival.origin).outcome with
  | answered response =>
      rw [outcome] at broken
      cases broken
  | pending =>
      rw [outcome] at broken
      cases broken
  | broken => exact passed outcome

def denial (request : Request) : Option Duration → Outcome
  | none => .broken
  | some wait => .answered (finish request (GatewayError.rateLimited (retryAfter wait)).response)

theorem finish_deny (gateway : Gateway) (request : Request) :
    finishOutcome request (gateway.deny request).outcome =
      denial request (gateway.forecast? request) := by
  unfold deny
  cases gateway.forecast? request with
  | none => rfl
  | some wait => rfl

theorem denied_exchange {arrival : Arrival} (limited : gateway.admission = some admission)
    (denied : gateway.admits arrival.identified = false) :
    (arrival.exchange gateway).asked = none ∧
      (arrival.exchange gateway).outcome = denial arrival.identified
        ((admission.asked gateway.clock.monotonic arrival.identified).limiter.wait?
          gateway.clock.monotonic (callerKey admission arrival.identified)) := by
  let entered := gateway.record Metrics.enter
  have limitedStill : entered.admission = some admission :=
    (record_admission gateway Metrics.enter).trans limited
  have sameClock : entered.clock = gateway.clock := record_clock gateway Metrics.enter
  have forecast : (entered.charged arrival.identified).forecast? arrival.identified =
      (admission.asked gateway.clock.monotonic arrival.identified).limiter.wait?
        gateway.clock.monotonic (callerKey admission arrival.identified) := by
    rw [forecast?, charged, limitedStill, sameClock]
    rfl
  have turnedAway : ¬entered.admits arrival.identified = true := by
    rw [admits_record, denied]
    exact Bool.false_ne_true
  have same : entered.passLimiter arrival.identified arrival.origin =
      (entered.charged arrival.identified).deny arrival.identified := by
    rw [passLimiter_eq, if_neg turnedAway]
  constructor
  · change (entered.passLimiter arrival.identified arrival.origin).asked = none
    rw [same, deny_asked]
  · rw [exchange_outcome, same, finish_deny, forecast]

theorem finish_retryAfter (request : Request) (response : Response) :
    (finish request response).headers.values GatewayError.retryAfter =
      response.headers.values GatewayError.retryAfter :=
  (finish_propagated request response (by decide) (by decide)).trans
    (propagate_values request response (by decide))

section

variable {limit : RateLimit Binary64} {rate : ℚ} {arrival : Arrival}

theorem Solvent.passedOn_or_toldToWait (finite : limit.rate = .finite rate)
    (small : limit.burst < 2 ^ 53) (double : Binary64.round rate = .finite rate)
    (fast : RateLimit.leastRate < rate) (solvent : gateway.Solvent limit) (arrival : Arrival) :
    arrival.PassedOn gateway ∨ arrival.ToldToWait gateway := by
  have positive : 0 < rate := (Binary64.two_zpow_pos (-64)).trans fast
  rcases solvent with ⟨admission, limited, sound⟩
  cases admitted : gateway.admits arrival.identified with
  | true => exact Or.inl ⟨admitted, admitted_unbroken admitted⟩
  | false =>
      right
      let key := callerKey admission arrival.identified
      have taken := sound.allow finite positive small gateway.clock.monotonic key
      rcases Option.isSome_iff_exists.mp
        (taken.wait?_isSome finite small double fast gateway.clock.monotonic key) with ⟨wait, forecast⟩
      obtain ⟨unasked, outcome⟩ := denied_exchange limited admitted
      rw [Admission.asked, forecast] at outcome
      refine ⟨admitted, unasked, _, wait, outcome, ?_, ?_⟩
      · rw [finish_status]
        rfl
      · rw [finish_retryAfter]
        rfl

/-- As many requests as a caller has tokens, all at one instant, leave it none. -/
theorem exhausted_by_burst (finite : limit.rate = .finite rate) (positive : 0 < rate)
    (small : limit.burst < 2 ^ 53)
    (prompt : ∀ asked, (arrival.origin asked).delay = Duration.zero) {count : ℕ}
    (limited : gateway.admission = some admission)
    (held : Limiter.Holds limit gateway.clock.monotonic (callerKey admission arrival.identified)
      count admission.limiter) :
    let later := gateway.run (List.replicate count (.arrival arrival))
    ∃ left, later.admission = some left ∧
      Limiter.Holds limit later.clock.monotonic (callerKey left arrival.identified) 0
        left.limiter := by
  induction count generalizing gateway admission with
  | zero => exact ⟨admission, limited, held⟩
  | succ count ih =>
      have next : (gateway.step (.arrival arrival)).admission =
          some (admission.asked gateway.clock.monotonic arrival.identified) := by
        rw [arrival_admission, limited, Option.map_some]
      have sameClock := arrival_clock gateway prompt
      refine ih next ?_
      rw [sameClock]
      exact held.allow finite positive small

theorem broken_after_burst (finite : limit.rate = .finite rate) (positive : 0 < rate)
    (small : limit.burst < 2 ^ 53) (slow : rate ≤ RateLimit.leastRate)
    (prompt : ∀ asked, (arrival.origin asked).delay = Duration.zero)
    (limited : gateway.admission = some admission)
    (unused : admission.limiter = Limiter.start limit) :
    (arrival.exchange (gateway.run (List.replicate limit.burst (.arrival arrival)))).outcome =
      .broken := by
  have held : Limiter.Holds limit gateway.clock.monotonic (callerKey admission arrival.identified)
      limit.burst admission.limiter := by
    rw [unused]
    exact Limiter.Holds.start finite positive small
  obtain ⟨left, exhausted, nothing⟩ := exhausted_by_burst finite positive small prompt limited held
  have denied := (admits_eq exhausted arrival.identified).trans nothing.denied
  obtain ⟨_, outcome⟩ := denied_exchange exhausted denied
  rw [outcome, Admission.asked, nothing.wait?_eq_none finite positive small slow]
  rfl

end

end Gateway

theorem Settings.rate_of_validate {settings : Settings} (valid : settings.validate = .ok ())
    (limited : settings.rateLimit.enabled = true) :
    ∃ rate, settings.rateLimit.requestsPerSecond = .finite rate ∧ 0 < rate := by
  have gaining := (limit_of_validate valid limited).1
  rw [isPositiveRate, Bool.and_eq_true] at gaining
  cases number : settings.rateLimit.requestsPerSecond with
  | nan =>
      rw [number] at gaining
      cases gaining.1
  | infinite negative =>
      rw [number] at gaining
      cases gaining.1
  | negativeZero =>
      rw [number] at gaining
      cases gaining.2
  | finite rate =>
      rw [number] at gaining
      exact ⟨rate, rfl, of_decide_eq_true gaining.2⟩

/-- Valid settings with a rate above the least one let every request of every run pass or tell it to
wait, and the forecast for a caller never fails. With any other valid rate the gateway fails on the
first of equal requests that comes after a burst of them at one instant. -/
theorem limited_requests_told_to_wait {settings : Settings} (valid : settings.validate = .ok ())
    (limited : settings.rateLimit.enabled = true)
    (word : settings.rateLimit.burst ≤ Word.greatest32)
    (double : settings.rateLimit.requestsPerSecond.IsDouble) (clock : Clock) :
    let start := Gateway.ofSettings settings clock
    ∃ rate, settings.rateLimit.requestsPerSecond = .finite rate ∧ 0 < rate ∧
      (RateLimit.leastRate < rate → ∀ events : List Event,
        (∀ arrival : Arrival,
          arrival.PassedOn (start.run events) ∨ arrival.ToldToWait (start.run events)) ∧
        ∃ admission, (start.run events).admission = some admission ∧
          ∀ now key, (admission.limiter.wait? now key).isSome = true) ∧
      (rate ≤ RateLimit.leastRate → ∀ arrival : Arrival,
        (∀ asked, (arrival.origin asked).delay = Duration.zero) →
        (arrival.exchange (start.run
          (List.replicate settings.rateLimit.burst (.arrival arrival)))).outcome = .broken) := by
  intro start
  obtain ⟨rate, number, positive⟩ := Settings.rate_of_validate valid limited
  have finite : settings.rateLimit.limit.rate = .finite rate := number
  have small : settings.rateLimit.limit.burst < 2 ^ 53 := word.trans_lt (by decide)
  have admission : start.admission = some (.ofSettings settings.rateLimit) := if_pos limited
  refine ⟨rate, number, positive, ?_, ?_⟩
  · intro fast events
    have rounded : Binary64.round rate = .finite rate := by
      rw [number] at double
      exact double
    have unused : start.Solvent settings.rateLimit.limit :=
      ⟨_, admission, Limiter.solvent_start _⟩
    have solvent := unused.run finite positive small events
    constructor
    · exact solvent.passedOn_or_toldToWait finite small rounded fast
    · rcases solvent with ⟨held, limitedStill, sound⟩
      exact ⟨held, limitedStill, sound.wait?_isSome finite small rounded fast⟩
  · intro slow arrival prompt
    have broken := Gateway.broken_after_burst finite positive small slow prompt admission rfl
    exact broken

/-! ### Two requests at one instant -/

def Gateway.singleAt (rate : ℚ) : Gateway :=
  .ofSettings (Settings.limitedTo rate 1) ⟨⟨0⟩, Instant.start⟩

theorem Gateway.singleAt_admission (rate : ℚ) : (Gateway.singleAt rate).admission =
    some (.ofSettings (Settings.limitedTo rate 1).rateLimit) :=
  rfl

theorem Gateway.singleAt_broken {rate : ℚ} (positive : 0 < rate) (slow : rate ≤ RateLimit.leastRate) :
    (greeted.exchange ((Gateway.singleAt rate).run [.arrival greeted])).outcome = .broken := by
  let limit : RateLimit Binary64 := ⟨.finite rate, 1⟩
  have finite : limit.rate = .finite rate := rfl
  have small : limit.burst < 2 ^ 53 := Nat.one_lt_two_pow (by decide)
  have prompt : ∀ asked, (greeted.origin asked).delay = Duration.zero := fun _ => rfl
  have broken := broken_after_burst finite positive small slow prompt (singleAt_admission rate) rfl
  exact broken

theorem second_greeting_told_to_wait :
    (Settings.limitedTo 1 1).validate = .ok () ∧ RateLimit.leastRate < 1 ∧
      greeted.PassedOn (Gateway.singleAt 1) ∧
      greeted.ToldToWait ((Gateway.singleAt 1).run [.arrival greeted]) := by
  have faultless : (Settings.limitedTo 1 1).fault? = none := by decide +kernel
  have valid : (Settings.limitedTo 1 1).validate = .ok () := by
    rw [Settings.validate, faultless]
  have double : (Settings.limitedTo 1 1).rateLimit.requestsPerSecond.IsDouble := by
    change Binary64.round 1 = .finite 1
    decide +kernel
  have fast : RateLimit.leastRate < 1 := by
    rw [RateLimit.leastRate]
    norm_num
  obtain ⟨rate, finite, _, answered, _⟩ := limited_requests_told_to_wait valid rfl (by decide) double
    ⟨⟨0⟩, Instant.start⟩
  cases finite
  refine ⟨valid, fast, ?_, ?_⟩
  · rcases (answered fast []).1 greeted with passed | told
    · exact passed
    · have admitted : (Gateway.singleAt 1).admits greeted.identified = true := by decide +kernel
      exact absurd admitted (Bool.eq_false_iff.mp told.denied)
  · rcases (answered fast [.arrival greeted]).1 greeted with passed | told
    · have denied : ((Gateway.singleAt 1).run [.arrival greeted]).admits greeted.identified =
          false := by
        have limited := Gateway.arrival_admission (Gateway.singleAt 1) greeted
        rw [Gateway.singleAt_admission, Option.map_some] at limited
        have sameClock : ((Gateway.singleAt 1).step (.arrival greeted)).clock =
            (Gateway.singleAt 1).clock := Gateway.arrival_clock _ fun _ => rfl
        rw [Gateway.run, List.foldl_cons, List.foldl_nil, Gateway.admits_eq limited, sameClock]
        decide +kernel
      exact absurd passed.admitted (Bool.eq_false_iff.mp denied)
    · exact told

/-- At this valid rate a token takes more than two to the sixty-four seconds. -/
theorem second_greeting_breaks :
    (Settings.limitedTo (1 / 2 ^ 67) 1).validate = .ok () ∧
      (Settings.limitedTo (1 / 2 ^ 67) 1).rateLimit.enabled = true ∧
      (Settings.limitedTo (1 / 2 ^ 67) 1).rateLimit.requestsPerSecond.IsDouble ∧
      (greeted.exchange ((Gateway.singleAt (1 / 2 ^ 67)).run [.arrival greeted])).outcome = .broken ∧
      ¬(greeted.PassedOn ((Gateway.singleAt (1 / 2 ^ 67)).run [.arrival greeted]) ∨
        greeted.ToldToWait ((Gateway.singleAt (1 / 2 ^ 67)).run [.arrival greeted])) := by
  have faultless : (Settings.limitedTo (1 / 2 ^ 67) 1).fault? = none := by decide +kernel
  have valid : (Settings.limitedTo (1 / 2 ^ 67) 1).validate = .ok () := by
    rw [Settings.validate, faultless]
  have double : (Settings.limitedTo (1 / 2 ^ 67) 1).rateLimit.requestsPerSecond.IsDouble := by
    change Binary64.round (1 / 2 ^ 67) = .finite (1 / 2 ^ 67)
    decide +kernel
  have slow : (1 : ℚ) / 2 ^ 67 ≤ RateLimit.leastRate := by
    rw [RateLimit.leastRate]
    norm_num
  have positive : (0 : ℚ) < 1 / 2 ^ 67 := by norm_num
  have broken := Gateway.singleAt_broken positive slow
  refine ⟨valid, rfl, double, broken, ?_⟩
  rintro (passed | told)
  · exact passed.unbroken broken
  · obtain ⟨response, wait, answered, _⟩ := told.told
    cases broken.symm.trans answered

end CachingGateway
