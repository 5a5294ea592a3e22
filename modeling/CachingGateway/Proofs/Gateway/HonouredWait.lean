/-
What it is worth to wait as long as a denied client is told. The seconds that are told are the nearest to
the forecast, so they may be up to half a second too few. A client that comes back after them is admitted
if they were not rounded down, and half a second more is enough in any case, if it sends nothing in
between. Sweeps and the requests of others do not matter to it.
-/

import CachingGateway.Proofs.Gateway.DeniedRequests
import CachingGateway.Proofs.RateLimit.RefilledToken
import CachingGateway.Proofs.Text.OctetsLaws
import Mathlib

namespace CachingGateway

structure Arrival.ToldSeconds (arrival : Arrival) (gateway : Gateway) (seconds : ℕ) : Prop where
  denied : gateway.admits arrival.identified = false
  told : ∃ response, (arrival.exchange gateway).outcome = .answered response ∧
    response.headers.values GatewayError.retryAfter = [Octets.ofText (toString seconds)]

namespace Gateway

variable {gateway : Gateway} {admission : Admission}

/-! ### The rule that keys are made by -/

/-- A gateway that limits callers by a rule. -/
def LimitsBy (rule : KeyRule) (gateway : Gateway) : Prop :=
  gateway.admission.map Admission.rule = some rule

theorem callerKey_of_rule {other : Admission} (same : admission.rule = other.rule)
    (request : Request) : callerKey admission request = callerKey other request := by
  rw [callerKey, callerKey, same]

theorem LimitsBy.step {rule : KeyRule} (limits : gateway.LimitsBy rule) (event : Event) :
    (gateway.step event).LimitsBy rule := by
  rw [LimitsBy] at limits ⊢
  rw [step_admission, Option.map_map, ← limits]
  exact Option.map_congr fun admission _ => admission.after_rule gateway.clock.monotonic event

theorem LimitsBy.run {rule : KeyRule} (limits : gateway.LimitsBy rule) (events : List Event) :
    (gateway.run events).LimitsBy rule := by
  induction events generalizing gateway with
  | nil => exact limits
  | cons event rest ih => exact ih (limits.step event)

/-! ### The bucket of a denied caller -/

/-- The bucket of a key is as it was left, or it was dropped, in a gateway that goes by the rule and the
limit of an admission. -/
def Untouched (standard : Admission) (key : String) (left : Bucket Binary64) (gateway : Gateway) :
    Prop :=
  ∃ admission, gateway.admission = some admission ∧ admission.rule = standard.rule ∧
    admission.limiter.Untouched standard.limiter.limit key left

variable {standard : Admission} {key : String} {left : Bucket Binary64}

theorem Untouched.step (untouched : gateway.Untouched standard key left) {event : Event}
    (apart : ∀ arrival, event = .arrival arrival → callerKey standard arrival.identified ≠ key) :
    (gateway.step event).Untouched standard key left := by
  obtain ⟨admission, limited, rule, kept⟩ := untouched
  refine ⟨admission.after gateway.clock.monotonic event, ?_, ?_, ?_⟩
  · rw [step_admission, limited, Option.map_some]
  · exact (admission.after_rule _ event).trans rule
  · cases event with
    | arrival arrival =>
        apply kept.allow
        rw [callerKey_of_rule rule]
        exact apart arrival rfl
    | pause length => exact kept
    | scrape path method target => exact kept
    | sweep idle => exact kept.reclaim idle

theorem Untouched.run (untouched : gateway.Untouched standard key left) {events : List Event}
    (apart : ∀ arrival, .arrival arrival ∈ events → callerKey standard arrival.identified ≠ key) :
    (gateway.run events).Untouched standard key left := by
  induction events generalizing gateway with
  | nil => exact untouched
  | cons event rest ih =>
      have first := untouched.step fun arrival same =>
        apart arrival (same ▸ List.mem_cons_self)
      exact ih first fun arrival later => apart arrival (List.mem_cons_of_mem event later)

variable {rate : ℚ} {arrival : Arrival} {seconds : ℕ}

/-- The seconds that are told are those of the forecast. -/
theorem seconds_of_told (limited : gateway.admission = some admission)
    (told : arrival.ToldSeconds gateway seconds) :
    ∃ wait, (admission.asked gateway.clock.monotonic arrival.identified).limiter.wait?
        gateway.clock.monotonic (callerKey admission arrival.identified) = some wait ∧
      seconds = retryAfter wait := by
  obtain ⟨response, answered, header⟩ := told.told
  have outcome := answered.symm.trans (denied_exchange limited told.denied).2
  cases forecast : (admission.asked gateway.clock.monotonic arrival.identified).limiter.wait?
      gateway.clock.monotonic (callerKey admission arrival.identified) with
  | none =>
      rw [forecast] at outcome
      cases outcome
  | some wait =>
      rw [forecast] at outcome
      cases outcome
      have same : [Octets.ofText (toString (retryAfter wait))] =
          [Octets.ofText (toString seconds)] :=
        (finish_retryAfter arrival.identified _).symm.trans header
      have text := Octets.ofText_injective (List.cons.inj same).1
      exact ⟨wait, rfl, (Nat.repr_inj.mp text).symm⟩

/-- What a gateway keeps of a caller that it has told to wait: a part of a token, for which the forecast
is told. -/
structure LeavesPart (standard : Admission) (key : String) (moment : Instant) (held : ℚ)
    (gateway : Gateway) : Prop where
  part : Binary64.IsPart held
  kept : ∃ admission, gateway.admission = some admission ∧
    admission.limiter.buckets.find? key = some ⟨.finite held, moment⟩
  untouched : gateway.Untouched standard key ⟨.finite held, moment⟩

theorem Solvent.left_by_denial (solvent : gateway.Solvent standard.limiter.limit)
    (limits : gateway.LimitsBy standard.rule) (usable : standard.limiter.limit.Usable rate)
    (told : arrival.ToldSeconds gateway seconds) :
    ∃ held wait, seconds = retryAfter wait ∧
      Duration.ofBinary64? (.finite (Binary64.missing held) / .finite rate) = some wait ∧
      (gateway.step (.arrival arrival)).LeavesPart standard (callerKey standard arrival.identified)
        gateway.clock.monotonic held := by
  obtain ⟨admission, limited, sound⟩ := solvent
  have rule : admission.rule = standard.rule := by
    rw [LimitsBy, limited] at limits
    exact Option.some.inj limits
  have keyed := callerKey_of_rule rule arrival.identified
  have refused := (admits_eq limited arrival.identified).symm.trans told.denied
  obtain ⟨held, part, found, forecast⟩ := sound.denied usable refused
  obtain ⟨wait, converted, same⟩ := seconds_of_told limited told
  have asked : (gateway.step (.arrival arrival)).admission =
      some (admission.asked gateway.clock.monotonic arrival.identified) := by
    rw [arrival_admission, limited, Option.map_some]
  have taken := sound.allow usable.finite usable.positive usable.small gateway.clock.monotonic
    (callerKey admission arrival.identified)
  have kept : (admission.asked gateway.clock.monotonic arrival.identified).limiter.buckets.find?
      (callerKey standard arrival.identified) = some ⟨.finite held, gateway.clock.monotonic⟩ :=
    keyed ▸ found
  refine ⟨held, wait, same, forecast.symm.trans converted, part, ⟨_, asked, kept⟩, _, asked, rule, ?_⟩
  exact
    { limit := taken.limit
      distinct := taken.distinct
      left := fun bucket still => Option.some.inj (still.symm.trans kept) }

theorem Untouched.admits (untouched : gateway.Untouched standard key left)
    (usable : standard.limiter.limit.Usable rate) {request : Request}
    (same : callerKey standard request = key)
    (ready : Limiter.hasToken
      (left.projected standard.limiter.limit gateway.clock.monotonic) = true) :
    gateway.admits request = true := by
  obtain ⟨admission, limited, rule, kept⟩ := untouched
  rw [admits_eq limited, callerKey_of_rule rule, same]
  exact kept.admits usable ready

end Gateway

/-- A caller that is told to wait and sends nothing meanwhile is admitted after the seconds it is told,
unless these fall short of the time in which the rate gains what its bucket misses. It is admitted half a
second later than it was told in any case, where doubles hold halves of seconds, and whenever the time
since then would be told as more seconds. -/
theorem waiting_is_honoured {settings : Settings} (valid : settings.validate = .ok ())
    (limited : settings.rateLimit.enabled = true)
    (word : settings.rateLimit.burst ≤ Word.greatest32)
    (clock : Clock) (events : List Event) {denied : Arrival} {seconds : ℕ}
    (told : denied.ToldSeconds ((Gateway.ofSettings settings clock).run events) seconds) :
    let reached := (Gateway.ofSettings settings clock).run events
    let key := Gateway.callerKey (.ofSettings settings.rateLimit)
    ∃ rate tokens : ℚ, settings.rateLimit.requestsPerSecond = .finite rate ∧ 0 ≤ tokens ∧
      tokens < 1 ∧
      (∃ admission, (reached.step (.arrival denied)).admission = some admission ∧
        admission.limiter.buckets.find? (key denied.identified) =
          some ⟨.finite tokens, reached.clock.monotonic⟩) ∧
      ∀ (between : List Event) (next : Arrival),
        (∀ arrival, .arrival arrival ∈ between → key arrival.identified ≠ key denied.identified) →
        key next.identified = key denied.identified →
        let later := (reached.step (.arrival denied)).run between
        let passed := later.clock.monotonic.elapsedSince reached.clock.monotonic
        ((seconds : ℚ) ≤ passed.toRat → 1 - tokens ≤ seconds * rate →
          later.admits next.identified = true) ∧
        ((seconds : ℚ) + 1 / 2 ≤ passed.toRat → seconds < 2 ^ 52 →
          later.admits next.identified = true) ∧
        (seconds < Gateway.retryAfter passed → later.admits next.identified = true) := by
  intro reached key
  obtain ⟨rate, number, positive⟩ := Settings.rate_of_validate valid limited
  let standard : Admission := .ofSettings settings.rateLimit
  have usable : standard.limiter.limit.Usable rate :=
    { finite := number
      positive := positive
      small := word.trans_lt (by decide)
      holding := (Settings.limit_of_validate valid limited).2 }
  have admission : (Gateway.ofSettings settings clock).admission = some standard := if_pos limited
  have unused : (Gateway.ofSettings settings clock).Solvent standard.limiter.limit :=
    ⟨_, admission, Limiter.solvent_start _⟩
  have solvent : reached.Solvent standard.limiter.limit :=
    unused.run usable.finite usable.positive usable.small events
  have begun : (Gateway.ofSettings settings clock).LimitsBy standard.rule :=
    congrArg (Option.map Admission.rule) admission
  have limits : reached.LimitsBy standard.rule := begun.run events
  obtain ⟨held, wait, rfl, forecast, leaves⟩ := solvent.left_by_denial limits usable told
  refine ⟨rate, held, number, leaves.part.nonneg, leaves.part.less, leaves.kept, ?_⟩
  intro between next apart same later passed
  have kept := leaves.untouched.run apart
  have longer (more : Gateway.retryAfter wait < Gateway.retryAfter passed) :
      later.admits next.identified = true :=
    kept.admits usable same (Bucket.hasToken_of_longer_wait usable leaves.part forecast more)
  refine ⟨?_, ?_, longer⟩
  · intro long covering
    exact kept.admits usable same
      (Bucket.hasToken_of_covering_wait usable leaves.part long covering)
  · intro long short
    exact longer (Gateway.retryAfter_lt_of_half short long)

/-! ### A client that comes back -/

section

variable {rate : ℚ} {wait : Duration}

/-- The limiter of a gateway for single requests once one has come. -/
def onceGreeted (rate : ℚ) : Admission :=
  (Admission.ofSettings (Settings.limitedTo rate 1).rateLimit).asked Instant.start greeted.identified

def Gateway.greetedAt (rate : ℚ) : Gateway :=
  (Gateway.singleAt rate).run [.arrival greeted]

theorem Gateway.greetedAt_admission (rate : ℚ) :
    (greetedAt rate).admission = some (onceGreeted rate) := by
  have limited := arrival_admission (singleAt rate) greeted
  rwa [singleAt_admission, Option.map_some] at limited

theorem Gateway.greetedAt_clock (rate : ℚ) : (greetedAt rate).clock = ⟨⟨0⟩, Instant.start⟩ :=
  arrival_clock (singleAt rate) fun _ => rfl

theorem Gateway.greetedAt_told (positive : 0 < rate)
    (forecast : ((onceGreeted rate).asked Instant.start greeted.identified).limiter.wait?
      Instant.start (callerKey (onceGreeted rate) greeted.identified) = some wait) :
    greeted.ToldSeconds (greetedAt rate) (retryAfter wait) := by
  let limit : RateLimit Binary64 := ⟨.finite rate, 1⟩
  have finite : limit.rate = .finite rate := rfl
  have small : limit.burst < 2 ^ 53 := Nat.one_lt_two_pow (by decide)
  have none : Limiter.Holds limit Instant.start (callerKey (onceGreeted rate) greeted.identified) 0
      (onceGreeted rate).limiter :=
    (Limiter.Holds.start finite positive small).allow finite positive small
  have sameClock := greetedAt_clock rate
  have limited := greetedAt_admission rate
  have denied : (greetedAt rate).admits greeted.identified = false := by
    rw [admits_eq limited, sameClock]
    exact none.denied
  have outcome := (denied_exchange limited denied).2
  rw [sameClock, forecast] at outcome
  exact ⟨denied, _, outcome, finish_retryAfter _ _⟩

theorem Gateway.greetedAt_later (rate : ℚ) (length : Duration) :
    let later := ((greetedAt rate).step (.arrival greeted)).run [.pause length]
    later.admission = some ((onceGreeted rate).asked Instant.start greeted.identified) ∧
      later.clock.monotonic = Instant.start.advance length := by
  intro later
  have limited := arrival_admission (greetedAt rate) greeted
  have sameClock : ((greetedAt rate).step (.arrival greeted)).clock = (greetedAt rate).clock :=
    arrival_clock (greetedAt rate) fun _ => rfl
  rw [greetedAt_admission, greetedAt_clock, Option.map_some] at limited
  rw [greetedAt_clock] at sameClock
  refine ⟨limited, ?_⟩
  change (((greetedAt rate).step (.arrival greeted)).advance length).clock.monotonic = _
  rw [Gateway.advance, sameClock]
  rfl

end

theorem Gateway.greetedAt_told_two : greeted.ToldSeconds (greetedAt (7 / 16)) 2 := by
  have told : greeted.ToldSeconds (greetedAt (7 / 16)) (retryAfter ⟨2285714286⟩) :=
    greetedAt_told (by norm_num) (by decide +kernel)
  have two : retryAfter ⟨2285714286⟩ = 2 := by decide +kernel
  exact two ▸ told

private theorem sevenSixteenths_valid : (Settings.limitedTo (7 / 16) 1).validate = .ok () := by
  have faultless : (Settings.limitedTo (7 / 16) 1).fault? = none := by decide +kernel
  rw [Settings.validate, faultless]

/-- Two seconds later, as it was told, the client has seven eighths of a token. -/
theorem told_seconds_fall_short :
    (Settings.limitedTo (7 / 16) 1).validate = .ok () ∧
      (Settings.limitedTo (7 / 16) 1).rateLimit.enabled = true ∧
      greeted.ToldSeconds (Gateway.greetedAt (7 / 16)) 2 ∧
      (((Gateway.greetedAt (7 / 16)).step (.arrival greeted)).run
        [.pause (Duration.ofSeconds 2)]).admits greeted.identified = false := by
  refine ⟨sevenSixteenths_valid, rfl, Gateway.greetedAt_told_two, ?_⟩
  obtain ⟨limited, moment⟩ := Gateway.greetedAt_later (7 / 16) (Duration.ofSeconds 2)
  rw [Gateway.admits_eq limited, moment]
  decide +kernel

theorem waiting_is_honoured_at_seven_sixteenths :
    (Settings.limitedTo (7 / 16) 1).validate = .ok () ∧
      (Settings.limitedTo (7 / 16) 1).rateLimit.enabled = true ∧
      greeted.ToldSeconds (Gateway.greetedAt (7 / 16)) 2 ∧
      (((Gateway.greetedAt (7 / 16)).step (.arrival greeted)).run
        [.pause ⟨2500000000⟩]).admits greeted.identified = true := by
  have told := Gateway.greetedAt_told_two
  refine ⟨sevenSixteenths_valid, rfl, told, ?_⟩
  obtain ⟨_, _, _, _, _, _, honoured⟩ := waiting_is_honoured sevenSixteenths_valid rfl (by decide)
    ⟨⟨0⟩, Instant.start⟩ [.arrival greeted] told
  obtain ⟨_, half, _⟩ := honoured [.pause ⟨2500000000⟩] greeted (by simp) rfl
  refine half ?_ (by decide)
  obtain ⟨_, moment⟩ := Gateway.greetedAt_later (7 / 16) ⟨2500000000⟩
  have begun : (Gateway.greetedAt (7 / 16)).clock.monotonic = Instant.start :=
    congrArg Clock.monotonic (Gateway.greetedAt_clock (7 / 16))
  change _ ≤ ((((Gateway.greetedAt (7 / 16)).step (.arrival greeted)).run
    [.pause ⟨2500000000⟩]).clock.monotonic.elapsedSince
      (Gateway.greetedAt (7 / 16)).clock.monotonic).toRat
  rw [moment, begun]
  decide +kernel

end CachingGateway
