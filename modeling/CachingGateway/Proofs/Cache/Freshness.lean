/-
How long a stored response is fresh. Dates count seconds, lifetimes nanoseconds and the clock of the
store milliseconds: the end of a lifetime is where the two rounded parts add up, and for a date it
falls within the millisecond before that date.
-/

import CachingGateway.Proofs.Cache.ExpiryDates

namespace CachingGateway

namespace WallClock

def elapsed (clock : WallClock) : Int :=
  clock.nanoseconds / 1000000

/-- A time from 1970 on whose count of milliseconds fits its word. -/
structure Countable (clock : WallClock) : Prop where
  nonneg : 0 ≤ clock.nanoseconds
  fits : clock.elapsed ≤ greatestMillisecond

/-- A time from 1970 on in a year that dates can have. -/
structure Dated (clock : WallClock) : Prop where
  nonneg : 0 ≤ clock.nanoseconds
  inRange : Date.yearInRange
    (Date.ofDayNumber (Moment.ofNanoseconds clock.nanoseconds).day).year = true

variable {clock : WallClock}

theorem Dated.bound (dated : clock.Dated) : clock.nanoseconds < 100000000 * 86400 * 1000000000 := by
  have days := (Date.day_bounds_of_yearInRange dated.inRange).2
  simp only [Moment.ofNanoseconds] at days
  omega

theorem Dated.countable (dated : clock.Dated) : clock.Countable := by
  have bound := dated.bound
  refine ⟨dated.nonneg, ?_⟩
  simp only [elapsed, greatestMillisecond, Word.greatest64]
  omega

theorem Countable.milliseconds (countable : clock.Countable) :
    (clock.milliseconds : Int) = clock.elapsed := by
  have nonneg := countable.nonneg
  have fits := countable.fits
  simp only [elapsed, greatestMillisecond, Word.greatest64] at fits
  simp only [WallClock.milliseconds, elapsed, greatestMillisecond, Word.greatest64]
  omega

end WallClock

namespace Policy

variable {headers : Headers} {default : Duration} {now : WallClock} {moment : Moment}

theorem since_bounds (stated : HttpDate.Stated moment) (dated : now.Dated) :
    (moment.since (Moment.ofNanoseconds now.nanoseconds)).natAbs <
      200000001 * 86400 * 1000000000 := by
  have days := Date.day_bounds_of_yearInRange stated.inRange
  have timed := stated.timed
  have bound := dated.bound
  have nonneg := dated.nonneg
  have nanosecond := stated.nanosecond
  by_cases lost : moment.secondOfDay < (Moment.ofNanoseconds now.nanoseconds).secondOfDay ∧
      1000000000 ≤ moment.nanosecond
  · rw [Moment.since, if_pos lost]
    simp only [Moment.seconds, Moment.ofNanoseconds]
    omega
  · rw [Moment.since, if_neg lost]
    simp only [Moment.seconds, Moment.ofNanoseconds]
    omega

theorem maxAge?_le {directive : List Char} {seconds : Nat}
    (found : maxAge? directive = some seconds) : seconds ≤ Word.greatest64 := by
  simp only [maxAge?, Option.bind_eq_bind, Option.bind_eq_some_iff, Option.ite_none_right_eq_some,
    Ascii.unsigned?, Option.filter_eq_some_iff, decide_eq_true_eq] at found
  obtain ⟨_, _, _, _, small⟩ := found
  exact small

theorem lifetime_of_maxAge {seconds : Nat}
    (limited : (directives headers).findSome? maxAge? = some seconds) (default : Duration)
    (now : WallClock) :
    lifetime headers default now = Duration.ofSeconds seconds ∧ seconds ≤ Word.greatest64 := by
  obtain ⟨directive, _, found⟩ := List.exists_of_findSome?_eq_some limited
  rw [lifetime, limited]
  exact ⟨rfl, maxAge?_le found⟩

theorem ofSeconds_lt_bound {seconds : Nat} (small : seconds ≤ Word.greatest64) :
    (Duration.ofSeconds seconds).nanoseconds < Duration.bound := by
  simp only [Duration.ofSeconds, Duration.ofParts, Duration.bound, Word.greatest64,
    Duration.nanosecondsPerSecond] at small ⊢
  omega

theorem remaining?_lt_bound (dated : now.Dated) {left : Duration}
    (found : remaining? headers now = some left) : left.nanoseconds < Duration.bound := by
  simp only [remaining?, Option.bind_eq_bind, Option.bind_eq_some_iff,
    Option.ite_none_right_eq_some, Option.pure_def, Option.some.injEq] at found
  obtain ⟨text, _, moment, read, later, rfl⟩ := found
  have bounds := since_bounds (HttpDate.stated_of_parse? read) dated
  simp only [Duration.bound, Word.greatest64, Duration.nanosecondsPerSecond]
  omega

theorem lifetime_lt_bound (short : default.nanoseconds < Duration.bound) (dated : now.Dated) :
    (lifetime headers default now).nanoseconds < Duration.bound := by
  cases limited : (directives headers).findSome? maxAge? with
  | some seconds =>
      obtain ⟨same, small⟩ := lifetime_of_maxAge limited default now
      rw [same]
      exact ofSeconds_lt_bound small
  | none =>
      rw [lifetime_of_no_maxAge limited]
      cases found : remaining? headers now with
      | none => exact short
      | some left => exact remaining?_lt_bound dated found

end Policy

/-- The entry of a response that is stored now. -/
def Response.storedAt (response : Response) (etag : String) (default : Duration) (now : WallClock) :
    Entry :=
  Entry.create now response etag (Policy.lifetime response.headers default now)

namespace Entry

variable {response : Response} {etag : String} {default : Duration} {now later : WallClock}

theorem isExpired_create_iff (lifetime : Duration) (counted : now.Countable)
    (laterCounted : later.Countable) :
    (create now response etag lifetime).isExpired later = true ↔
      min (WallClock.greatestMillisecond : Int) (now.elapsed + lifetime.milliseconds) ≤
        later.elapsed := by
  have start := counted.milliseconds
  have reached := laterCounted.milliseconds
  have ends : (create now response etag lifetime).expiresAt =
      min WallClock.greatestMillisecond (now.milliseconds + lifetime.milliseconds) := by
    simp only [create, expiry]
    omega
  rw [← start, ← reached, isExpired, decide_eq_true_eq, ends]
  omega

theorem isExpired_storedAt_maxAge {seconds : Nat}
    (limited : (Policy.directives response.headers).findSome? Policy.maxAge? = some seconds)
    (counted : now.Countable) (laterCounted : later.Countable) :
    (response.storedAt etag default now).isExpired later = false ↔
      later.elapsed <
        min (WallClock.greatestMillisecond : Int) (now.elapsed + 1000 * seconds) := by
  have milliseconds : (Duration.ofSeconds seconds).milliseconds = 1000 * seconds := by
    simp only [Duration.milliseconds, Duration.ofSeconds, Duration.ofParts,
      Duration.nanosecondsPerSecond]
    omega
  rw [← Bool.not_eq_true, Response.storedAt, (Policy.lifetime_of_maxAge limited default now).1,
    isExpired_create_iff _ counted laterCounted, milliseconds]
  omega

/-- The part of a millisecond that the clock is past its last one can be lost twice, so the end may
come a millisecond before the date and never after it. -/
theorem isExpired_storedAt_date {moment : Moment} {text : List Char} (dated : now.Dated)
    (unlimited : ∀ directive ∈ Policy.directives response.headers, Policy.maxAge? directive = none)
    (stated : response.headers.firstText? Policy.expires = some text)
    (read : HttpDate.parse? text = some moment) (whole : moment.nanosecond = 0)
    (ahead : now.nanoseconds < moment.seconds * 1000000000) :
    (later.Countable → moment.seconds * 1000000000 ≤ later.nanoseconds →
      (response.storedAt etag default now).isExpired later = true) ∧
    (now.nanoseconds ≤ later.nanoseconds →
      later.nanoseconds < moment.seconds * 1000000000 - 1000000 →
      (response.storedAt etag default now).isExpired later = false) := by
  have left := Policy.lifetime_of_date unlimited stated read whole ahead default
  have days := Date.day_bounds_of_yearInRange (HttpDate.stated_of_parse? read).inRange
  have timed := (HttpDate.stated_of_parse? read).timed
  simp only [Moment.seconds] at ahead left ⊢
  constructor
  · intro counted reached
    rw [Response.storedAt, left, isExpired_create_iff _ dated.countable counted]
    simp only [WallClock.elapsed, Duration.milliseconds]
    omega
  · intro start before
    have counted : later.Countable := by
      refine ⟨Int.le_trans dated.nonneg start, ?_⟩
      simp only [WallClock.elapsed, WallClock.greatestMillisecond, Word.greatest64]
      omega
    rw [← Bool.not_eq_true, Response.storedAt, left,
      isExpired_create_iff _ dated.countable counted]
    simp only [WallClock.elapsed, WallClock.greatestMillisecond, Word.greatest64,
      Duration.milliseconds]
    omega

/-- An entry is fresh up to the millisecond that its lifetime reaches, or up to the greatest one. No
count on the way overflows. A whole second stated as its date ends it within the millisecond before;
a maximum age ends it after that many seconds. -/
theorem fresh_until_expiry (response : Response) (etag : String) (default : Duration)
    (now : WallClock) (short : default.nanoseconds < Duration.bound) (dated : now.Dated) :
    let lifetime := Policy.lifetime response.headers default now
    let entry := response.storedAt etag default now
    ((entry.createdAt : Int) = now.elapsed ∧ entry.expiresAt ≤ WallClock.greatestMillisecond ∧
      lifetime.nanoseconds < Duration.bound ∧
      ∀ text moment, response.headers.firstText? Policy.expires = some text →
        HttpDate.parse? text = some moment →
        (moment.since (Moment.ofNanoseconds now.nanoseconds)).natAbs ≤
          Word.greatestSigned64 * 1000000) ∧
    (∀ later : WallClock, later.Countable →
      (entry.isExpired later = true ↔
        min (WallClock.greatestMillisecond : Int) (now.elapsed + lifetime.milliseconds) ≤
          later.elapsed)) ∧
    ((∀ directive ∈ Policy.directives response.headers, Policy.maxAge? directive = none) →
      ∀ text moment, response.headers.firstText? Policy.expires = some text →
        HttpDate.parse? text = some moment → moment.nanosecond = 0 →
        now.nanoseconds < moment.seconds * 1000000000 →
        ∀ later : WallClock,
          (later.Countable → moment.seconds * 1000000000 ≤ later.nanoseconds →
            entry.isExpired later = true) ∧
          (now.nanoseconds ≤ later.nanoseconds →
            later.nanoseconds < moment.seconds * 1000000000 - 1000000 →
            entry.isExpired later = false)) ∧
    ∀ seconds, (Policy.directives response.headers).findSome? Policy.maxAge? = some seconds →
      ∀ later : WallClock, later.Countable →
        (entry.isExpired later = false ↔
          later.elapsed <
            min (WallClock.greatestMillisecond : Int) (now.elapsed + 1000 * seconds)) := by
  intro lifetime entry
  have counted := dated.countable
  refine ⟨⟨counted.milliseconds, Nat.min_le_left _ _, Policy.lifetime_lt_bound short dated, ?_⟩,
    ?_, ?_, ?_⟩
  · intro text moment _ read
    have bounds := Policy.since_bounds (HttpDate.stated_of_parse? read) dated
    rw [Word.greatestSigned64]
    omega
  · intro later laterCounted
    exact isExpired_create_iff lifetime counted laterCounted
  · intro unlimited text moment stated read whole ahead later
    exact isExpired_storedAt_date dated unlimited stated read whole ahead
  · intro seconds limited later laterCounted
    exact isExpired_storedAt_maxAge limited counted laterCounted

/-- Half a microsecond past a millisecond the end falls a millisecond before the date. -/
theorem fresh_until_date_of_greeting :
    let now : WallClock := ⟨784111775500000500⟩
    let response : Response := ⟨Status.ok, Headers.empty.append Policy.expires
      (Octets.ofText "Sun, 06 Nov 1994 08:49:37 GMT"), []⟩
    let entry := response.storedAt "" Duration.zero now
    (Duration.zero.nanoseconds < Duration.bound ∧ now.Dated) ∧
      entry.expiresAt = 784111776999 ∧
      entry.isExpired ⟨784111775500000500⟩ = false ∧ entry.isExpired ⟨784111776998999999⟩ = false ∧
      entry.isExpired ⟨784111777000000000⟩ = true := by
  intro now response entry
  have short : Duration.zero.nanoseconds < Duration.bound := by decide
  have dated : now.Dated := ⟨by decide, by decide⟩
  have stated : response.headers.firstText? Policy.expires =
      some "Sun, 06 Nov 1994 08:49:37 GMT".toList := by
    decide +kernel
  have read : HttpDate.parse? "Sun, 06 Nov 1994 08:49:37 GMT".toList = some ⟨9075, 31777, 0⟩ := by
    decide +kernel
  obtain ⟨_, _, byDate, _⟩ := fresh_until_expiry response "" Duration.zero now short dated
  have ends := byDate (by decide) _ _ stated read rfl (by decide)
  refine ⟨⟨short, dated⟩, ?_, (ends ⟨784111775500000500⟩).2 (by decide) (by decide),
    (ends ⟨784111776998999999⟩).2 (by decide) (by decide),
    (ends ⟨784111777000000000⟩).1 ⟨by decide, by decide⟩ (by decide)⟩
  decide +kernel

end Entry

end CachingGateway
