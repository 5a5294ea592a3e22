/-
The law of admission over the rationals. A caller is admitted exactly when no stretch that begins with
one of its past admissions and ends with this call would hold more calls than the burst and what the rate
has added since. The one number that a bucket keeps is the least room that any such stretch leaves.
-/

import CachingGateway.Proofs.Data.TableLaws
import CachingGateway.Proofs.RateLimit.LimiterRun
import Mathlib.Algebra.Order.Group.MinMax
import Mathlib.Algebra.Order.Ring.Rat
import Mathlib.Data.List.Induction
import Mathlib.Tactic.Linarith
import Mathlib.Tactic.Positivity
import Mathlib.Tactic.Ring

namespace CachingGateway

/-! ### Time in seconds -/

theorem Duration.toRat_eq (length : Duration) :
    length.toRat = (length.nanoseconds : ℚ) / 1000000000 := by
  rw [toRat, Rat.mkRat_eq_div]
  norm_num [nanosecondsPerSecond]

theorem Duration.toRat_nonneg (length : Duration) : 0 ≤ length.toRat := by
  rw [toRat_eq]
  positivity

theorem Instant.elapsed_split {first second third : Instant}
    (before : first.nanoseconds ≤ second.nanoseconds)
    (after : second.nanoseconds ≤ third.nanoseconds) :
    (third.elapsedSince first).toRat =
      (second.elapsedSince first).toRat + (third.elapsedSince second).toRat := by
  have whole : third.nanoseconds - first.nanoseconds =
      (second.nanoseconds - first.nanoseconds) + (third.nanoseconds - second.nanoseconds) := by
    omega
  simp only [Duration.toRat_eq, elapsedSince]
  rw [whole, Nat.cast_add, add_div]

namespace RateLimit

variable (limit : RateLimit Rat)

/-! ### The law -/

/-- A call now is within the law: no stretch from a past admission to now is overfull with it. -/
def Permits (past : List Instant) (now : Instant) : Prop :=
  ∀ earlier since later, past = earlier ++ since :: later →
    (later.length + 2 : ℚ) ≤ limit.burst + limit.rate * (now.elapsedSince since).toRat

theorem permits_nil (now : Instant) : limit.Permits [] now := by
  intro earlier since later split
  cases earlier <;> cases split

theorem permits_cons (since : Instant) (later : List Instant) (now : Instant) :
    limit.Permits (since :: later) now ↔
      (later.length + 2 : ℚ) ≤ limit.burst + limit.rate * (now.elapsedSince since).toRat ∧
        limit.Permits later now := by
  constructor
  · intro permitted
    constructor
    · exact permitted [] since later rfl
    · intro earlier other rest split
      exact permitted (since :: earlier) other rest (by rw [split, List.cons_append])
  · rintro ⟨first, permitted⟩ earlier other rest split
    cases earlier with
    | nil =>
        cases split
        exact first
    | cons head tail =>
        cases split
        exact permitted tail other rest rfl

/-- The least room that a stretch from a past admission leaves, and never more than the burst. -/
def allowance (now : Instant) : List Instant → ℚ
  | [] => limit.burst
  | since :: later =>
    min (limit.burst + limit.rate * (now.elapsedSince since).toRat - (later.length + 1))
      (allowance now later)

variable {limit}

theorem one_le_allowance_iff (holding : 1 ≤ limit.burst) (now : Instant) (past : List Instant) :
    1 ≤ limit.allowance now past ↔ limit.Permits past now := by
  induction past with
  | nil =>
      have room : (1 : ℚ) ≤ limit.burst := by exact_mod_cast holding
      exact iff_of_true room (limit.permits_nil now)
  | cons since later ih =>
      rw [allowance, le_min_iff, ih, permits_cons]
      refine and_congr_left fun _ => ?_
      constructor
      · intro room
        linarith
      · intro room
        linarith

/-! ### Refilling follows the law -/

theorem allowance_later (gaining : 0 < limit.rate) {now later : Instant}
    (order : now.nanoseconds ≤ later.nanoseconds) (past : List Instant)
    (earlier : ∀ since ∈ past, since.nanoseconds ≤ now.nanoseconds) :
    min (limit.allowance now past + (later.elapsedSince now).toRat * limit.rate) limit.burst =
      limit.allowance later past := by
  have gained : 0 ≤ (later.elapsedSince now).toRat * limit.rate :=
    mul_nonneg (Duration.toRat_nonneg _) gaining.le
  induction past with
  | nil =>
      rw [allowance, allowance]
      exact min_eq_right (by linarith)
  | cons since rest ih =>
      have passed := Instant.elapsed_split (earlier since List.mem_cons_self) order
      have tail := ih fun other member => earlier other (List.mem_cons_of_mem since member)
      rw [allowance, allowance, ← tail, ← min_add_add_right, min_assoc, passed]
      congr 1
      ring

/-- A refill after an admission, which is itself a stretch of one call from then on. -/
theorem allowance_concat {now later : Instant}
    (order : now.nanoseconds ≤ later.nanoseconds) (past : List Instant)
    (earlier : ∀ since ∈ past, since.nanoseconds ≤ now.nanoseconds) :
    min (limit.allowance now past - 1 + (later.elapsedSince now).toRat * limit.rate) limit.burst =
      limit.allowance later (past ++ [now]) := by
  induction past with
  | nil =>
      rw [List.nil_append, allowance, allowance, allowance]
      congr 1
      rw [List.length_nil]
      push_cast
      ring
  | cons since rest ih =>
      have passed := Instant.elapsed_split (earlier since List.mem_cons_self) order
      have tail := ih fun other member => earlier other (List.mem_cons_of_mem since member)
      rw [List.cons_append, allowance, allowance, ← tail, ← min_sub_sub_right, ← min_add_add_right,
        min_assoc, passed, List.length_append, List.length_singleton]
      congr 1
      push_cast
      ring

end RateLimit

/-! ### A bucket keeps the allowance -/

theorem Bucket.projected_eq (bucket : Bucket Rat) (limit : RateLimit Rat) (now : Instant) :
    bucket.projected limit now =
      min (bucket.tokens + (now.elapsedSince bucket.lastRefill).toRat * limit.rate) limit.burst :=
  rfl

namespace Limiter

theorem hasToken_iff (tokens : ℚ) : hasToken tokens = true ↔ 1 ≤ tokens := by
  have whole : hasToken tokens = decide (((1 : ℕ) : ℚ) ≤ tokens) := rfl
  rw [whole, decide_eq_true_iff, Nat.cast_one]

theorem bucket_allow_self (limiter : Limiter Rat) (now later : Instant) (key : String) {tokens : ℚ}
    (asked : (limiter.bucket now key).projected limiter.limit now = tokens) :
    (limiter.allow now key).2.bucket later key =
      ⟨if hasToken tokens then tokens - 1 else tokens, now⟩ := by
  have whole : (TokenNumber.ofNat 1 : ℚ) = 1 := Nat.cast_one
  simp only [allow, bucket, Table.find?_insert, if_true, Option.getD_some, whole]
  rw [← asked]
  rfl

theorem bucket_allow_of_ne (limiter : Limiter Rat) (now later : Instant) {key other : String}
    (distinct : key ≠ other) :
    (limiter.allow now other).2.bucket later key = limiter.bucket later key := by
  simp only [allow, bucket, Table.find?_insert, if_neg distinct]

end Limiter

namespace SweptLimiter

variable {limit : RateLimit Rat} {key : String} {swept : SweptLimiter Rat} {past : List Instant}

/-- The bucket of a key holds what the past admissions of the key leave it, now and later on. -/
structure FollowsLaw (limit : RateLimit Rat) (key : String) (past : List Instant)
    (swept : SweptLimiter Rat) : Prop where
  sameLimit : swept.limiter.limit = limit
  unswept : swept.sweeps = []
  earlier : ∀ since ∈ past, since.nanoseconds ≤ swept.now.nanoseconds
  level : ∀ later : Instant, swept.now.nanoseconds ≤ later.nanoseconds →
    (swept.limiter.bucket later key).projected limit later = limit.allowance later past

theorem followsLaw_bare (limit : RateLimit Rat) (key : String) :
    FollowsLaw limit key [] (bare limit) where
  sameLimit := rfl
  unswept := rfl
  earlier := by
    intro since member
    cases member
  level := by
    intro later _
    have full : (bare limit).limiter.bucket later key = Bucket.full limit later := rfl
    have idle : (later.elapsedSince later).toRat = 0 := by
      rw [Duration.toRat_eq, Instant.elapsedSince, Nat.sub_self, Nat.cast_zero, zero_div]
    rw [full, Bucket.projected_eq, RateLimit.allowance]
    change min ((limit.burst : ℚ) + (later.elapsedSince later).toRat * limit.rate) limit.burst = _
    rw [idle, zero_mul, add_zero, min_self]

/-- A call on the key is answered by the law. -/
theorem FollowsLaw.allow_iff (follows : FollowsLaw limit key past swept) (holding : 1 ≤ limit.burst) :
    (swept.allow key).1 = true ↔ limit.Permits past swept.now := by
  have answer : (swept.allow key).1 =
      Limiter.hasToken ((swept.limiter.bucket swept.now key).projected swept.limiter.limit
        swept.now) := rfl
  rw [answer, follows.sameLimit, follows.level swept.now (Nat.le_refl _), Limiter.hasToken_iff,
    RateLimit.one_le_allowance_iff holding]

theorem FollowsLaw.allow (follows : FollowsLaw limit key past swept) (gaining : 0 < limit.rate) :
    FollowsLaw limit key (past ++ swept.admitted key (.allow key)) (swept.allow key).2 := by
  have asked : (swept.limiter.bucket swept.now key).projected swept.limiter.limit swept.now =
      limit.allowance swept.now past := by
    rw [follows.sameLimit]
    exact follows.level swept.now (Nat.le_refl _)
  have refilled (later : Instant) :=
    swept.limiter.bucket_allow_self swept.now later key asked
  have answer : (swept.step (.allow key)).1 =
      .admission (Limiter.hasToken (limit.allowance swept.now past)) :=
    congrArg LimiterAnswer.admission (congrArg Limiter.hasToken asked)
  cases taken : Limiter.hasToken (limit.allowance swept.now past) with
  | true =>
      have now : swept.admitted key (.allow key) = [swept.now] := by
        rw [admitted, answer, taken, if_pos ⟨rfl, rfl⟩]
      rw [now]
      refine { sameLimit := follows.sameLimit, unswept := follows.unswept, earlier := ?_, level := ?_ }
      · intro since member
        rcases List.mem_append.mp member with before | last
        · exact follows.earlier since before
        · rw [List.mem_singleton.mp last]
          exact Nat.le_refl _
      · intro later order
        have bucket := refilled later
        rw [taken, if_pos rfl] at bucket
        change ((swept.limiter.allow swept.now key).2.bucket later key).projected limit later = _
        rw [bucket, Bucket.projected_eq]
        exact RateLimit.allowance_concat order past follows.earlier
  | false =>
      have none : swept.admitted key (.allow key) = [] := by
        rw [admitted, answer, taken, if_neg]
        rintro ⟨_, impossible⟩
        cases impossible
      rw [none, List.append_nil]
      refine
        { sameLimit := follows.sameLimit
          unswept := follows.unswept
          earlier := follows.earlier
          level := ?_ }
      intro later order
      have bucket := refilled later
      rw [taken, if_neg Bool.false_ne_true] at bucket
      change ((swept.limiter.allow swept.now key).2.bucket later key).projected limit later = _
      rw [bucket, Bucket.projected_eq]
      exact RateLimit.allowance_later gaining order past follows.earlier

theorem FollowsLaw.allow_other (follows : FollowsLaw limit key past swept) {other : String}
    (distinct : key ≠ other) : FollowsLaw limit key past (swept.allow other).2 where
  sameLimit := follows.sameLimit
  unswept := follows.unswept
  earlier := follows.earlier
  level := by
    intro later order
    change ((swept.limiter.allow swept.now other).2.bucket later key).projected limit later = _
    rw [swept.limiter.bucket_allow_of_ne swept.now later distinct]
    exact follows.level later order

theorem FollowsLaw.advance (follows : FollowsLaw limit key past swept) (length : Duration) :
    FollowsLaw limit key past (swept.advance length) := by
  have sameLimiter := advance_unswept follows.unswept length
  have passed : swept.now.nanoseconds ≤ (swept.advance length).now.nanoseconds :=
    Nat.le_add_right _ _
  refine
    { sameLimit := by rw [sameLimiter, follows.sameLimit]
      unswept := follows.unswept
      earlier := ?_
      level := ?_ }
  · intro since member
    exact (follows.earlier since member).trans passed
  · intro later order
    rw [sameLimiter]
    exact follows.level later (passed.trans order)

theorem FollowsLaw.step (follows : FollowsLaw limit key past swept) (gaining : 0 < limit.rate)
    {step : LimiterStep} (use : step.isUse = true) :
    FollowsLaw limit key (past ++ swept.admitted key step) (swept.step step).2 := by
  have apart (other : step ≠ .allow key) : past ++ swept.admitted key step = past := by
    rw [admitted, if_neg fun both => other both.1, List.append_nil]
  cases step with
  | allow asked =>
      by_cases same : asked = key
      · rw [same]
        exact follows.allow gaining
      · rw [apart fun equal => same (LimiterStep.allow.inj equal)]
        exact follows.allow_other (Ne.symm same)
  | wait asked =>
      rw [apart (by simp)]
      exact follows
  | advance length =>
      rw [apart (by simp)]
      exact follows.advance length
  | reclaim idle => cases use
  | sweep interval idle => cases use
  | stop => cases use

theorem followsLaw_run (limit : RateLimit Rat) (gaining : 0 < limit.rate) (key : String)
    (steps : List LimiterStep) (uses : ∀ step ∈ steps, step.isUse = true) :
    FollowsLaw limit key ((bare limit).admissions key steps) ((bare limit).run steps) := by
  induction steps using List.reverseRecOn with
  | nil => exact followsLaw_bare limit key
  | append_singleton steps step ih =>
      have before := ih fun other member => uses other (List.mem_append_left [step] member)
      have after := before.step gaining (uses step (List.mem_append_right steps List.mem_cons_self))
      rw [admissions_append, run_append]
      simpa only [admissions, List.append_nil, run, List.foldl_cons, List.foldl_nil] using after

/-! ### Windows -/

end SweptLimiter

/-- An instant lies in the window of a length that begins at another instant, both ends included. -/
def Instant.within (begun : Instant) (length : Duration) (time : Instant) : Bool :=
  begun.nanoseconds ≤ time.nanoseconds && time.nanoseconds ≤ (begun.advance length).nanoseconds

theorem Instant.elapsed_le_of_within {begun first last : Instant} {length : Duration}
    (start : begun.within length first = true) (stop : begun.within length last = true) :
    (last.elapsedSince first).toRat ≤ length.toRat := by
  simp only [within, Bool.and_eq_true, decide_eq_true_eq] at start stop
  have ending : (begun.advance length).nanoseconds = begun.nanoseconds + length.nanoseconds := rfl
  have short : last.nanoseconds - first.nanoseconds ≤ length.nanoseconds := by omega
  rw [Duration.toRat_eq, Duration.toRat_eq, elapsedSince]
  have cast : ((last.nanoseconds - first.nanoseconds : Nat) : ℚ) ≤ length.nanoseconds := by
    exact_mod_cast short
  linarith

namespace RateLimit

variable {limit : RateLimit Rat} {times : List Instant}

/-- Every admission of a list is within the law after those before it. -/
def Lawful (limit : RateLimit Rat) (times : List Instant) : Prop :=
  ∀ earlier now later, times = earlier ++ now :: later → limit.Permits earlier now

theorem Lawful.of_append {rest : List Instant} (lawful : limit.Lawful (times ++ rest)) :
    limit.Lawful times := by
  intro earlier now later split
  refine lawful earlier now (later ++ rest) ?_
  rw [split, List.append_assoc, List.cons_append]

theorem Lawful.concat (lawful : limit.Lawful times) {now : Instant}
    (permitted : limit.Permits times now) : limit.Lawful (times ++ [now]) := by
  intro earlier other later split
  rcases List.eq_nil_or_concat' later with rfl | ⟨rest, last, rfl⟩
  · obtain ⟨rfl, same⟩ := List.append_inj' split rfl
    cases same
    exact permitted
  · have grouped : times ++ [now] = (earlier ++ other :: rest) ++ [last] := by
      rw [split, List.append_assoc, List.cons_append]
    exact lawful earlier other rest (List.append_inj' grouped rfl).1

theorem Lawful.window_le (lawful : limit.Lawful times) (gaining : 0 < limit.rate)
    (holding : 1 ≤ limit.burst) (begun : Instant) (length : Duration) :
    ((times.filter (begun.within length)).length : ℚ) ≤ limit.burst + limit.rate * length.toRat := by
  have room : (1 : ℚ) ≤ limit.burst := by exact_mod_cast holding
  have gained : 0 ≤ limit.rate * length.toRat := mul_nonneg gaining.le length.toRat_nonneg
  induction times using List.reverseRecOn with
  | nil =>
      rw [List.filter_nil, List.length_nil, Nat.cast_zero]
      linarith
  | append_singleton times now ih =>
      have before := ih lawful.of_append
      rw [List.filter_append]
      by_cases inside : begun.within length now = true
      · rw [List.filter_cons_of_pos inside, List.filter_nil, List.length_append,
          List.length_singleton]
        cases window : times.filter (begun.within length) with
        | nil =>
            rw [List.length_nil]
            push_cast
            linarith
        | cons first rest =>
            -- The whole window stands in the stretch from its first admission to now.
            obtain ⟨outside, stretch, rfl, _, start, tail⟩ := List.filter_eq_cons_iff.mp window
            have permitted := lawful (outside ++ first :: stretch) now [] rfl outside first stretch rfl
            have short := Instant.elapsed_le_of_within start inside
            have bounded := mul_le_mul_of_nonneg_left short gaining.le
            have fewer : (rest.length : ℚ) ≤ stretch.length := by
              rw [← tail]
              exact_mod_cast List.length_filter_le _ stretch
            rw [List.length_cons]
            push_cast
            linarith
      · rw [List.filter_cons_of_neg inside, List.filter_nil, List.append_nil]
        exact before

end RateLimit

theorem SweptLimiter.lawful_admissions (limit : RateLimit Rat) (gaining : 0 < limit.rate)
    (holding : 1 ≤ limit.burst) (key : String) (steps : List LimiterStep)
    (uses : ∀ step ∈ steps, step.isUse = true) :
    limit.Lawful ((bare limit).admissions key steps) := by
  induction steps using List.reverseRecOn with
  | nil =>
      intro earlier now later split
      cases earlier <;> cases split
  | append_singleton steps step ih =>
      have earlierUses : ∀ other ∈ steps, other.isUse = true :=
        fun other member => uses other (List.mem_append_left [step] member)
      have follows := followsLaw_run limit gaining key steps earlierUses
      rw [admissions_append, admissions, admissions, List.append_nil, admitted]
      split
      · rename_i taken
        obtain ⟨rfl, answer⟩ := taken
        exact (ih earlierUses).concat ((follows.allow_iff holding).mp
          (LimiterAnswer.admission.inj answer))
      · rw [List.append_nil]
        exact ih earlierUses

/-- The limiter is the token bucket law. In every run without sweeps a caller is admitted exactly when
each stretch from one of its past admissions to now, this call counted, stays within the burst and what
the rate adds in that time. So no window holds more admissions of a caller than the burst and what the
rate adds over the window. -/
theorem admission_is_token_bucket_law (limit : RateLimit Rat) (gaining : 0 < limit.rate)
    (holding : 1 ≤ limit.burst) (steps : List LimiterStep)
    (uses : ∀ step ∈ steps, step.isUse = true) (key : String) :
    ((((SweptLimiter.bare limit).run steps).allow key).1 = true ↔
        ∀ earlier since later,
          (SweptLimiter.bare limit).admissions key steps = earlier ++ since :: later →
          ((since :: later).length + 1 : ℚ) ≤ limit.burst + limit.rate *
            (((SweptLimiter.bare limit).run steps).now.elapsedSince since).toRat) ∧
      ∀ (begun : Instant) (length : Duration),
        ((((SweptLimiter.bare limit).admissions key steps).filter (begun.within length)).length : ℚ) ≤
          limit.burst + limit.rate * length.toRat := by
  have follows := SweptLimiter.followsLaw_run limit gaining key steps uses
  have lawful := SweptLimiter.lawful_admissions limit gaining holding key steps uses
  constructor
  · rw [follows.allow_iff holding, RateLimit.Permits]
    refine forall_congr' fun earlier => forall_congr' fun since => forall_congr' fun later => ?_
    have counted : ((since :: later).length + 1 : ℚ) = later.length + 2 := by
      rw [List.length_cons]
      push_cast
      ring
    rw [counted]
  · intro begun length
    exact lawful.window_le gaining holding begun length

/-- Two tokens at half a token a second: two calls are admitted at once, the third is denied, and after
three seconds one more is admitted. -/
def hurriedRun : List LimiterStep :=
  [.allow "caller", .allow "other", .allow "caller", .wait "caller", .allow "caller",
    .advance (Duration.ofSeconds 3), .allow "caller", .allow "caller"]

theorem admission_is_token_bucket_law_hurriedRun :
    let limit : RateLimit Rat := ⟨1 / 2, 2⟩
    (0 < limit.rate ∧ 1 ≤ limit.burst ∧ ∀ step ∈ hurriedRun, step.isUse = true) ∧
      (SweptLimiter.bare limit).admissions "caller" hurriedRun =
        [Instant.start, Instant.start, ⟨3000000000⟩] ∧
      (((SweptLimiter.bare limit).run hurriedRun).allow "caller").1 = false ∧
      ((3 : ℕ) : ℚ) ≤ limit.burst + limit.rate * (Duration.ofSeconds 3).toRat := by
  intro limit
  have gaining : 0 < limit.rate := by norm_num [limit]
  have holding : 1 ≤ limit.burst := by decide
  have uses : ∀ step ∈ hurriedRun, step.isUse = true := by decide
  have admitted : (SweptLimiter.bare limit).admissions "caller" hurriedRun =
      [Instant.start, Instant.start, ⟨3000000000⟩] := by
    decide +kernel
  obtain ⟨law, window⟩ := admission_is_token_bucket_law limit gaining holding hurriedRun uses "caller"
  have counted := window Instant.start (Duration.ofSeconds 3)
  have now : ((SweptLimiter.bare limit).run hurriedRun).now = ⟨3000000000⟩ := by decide +kernel
  have three : ([Instant.start, Instant.start, ⟨3000000000⟩].filter
      (Instant.start.within (Duration.ofSeconds 3))).length = 3 := by decide
  rw [admitted, three] at counted
  rw [admitted, now] at law
  refine ⟨⟨gaining, holding, uses⟩, admitted, ?_, counted⟩
  -- The stretch from the first admission would hold four calls, and has room for three and a half.
  rw [← Bool.not_eq_true, law]
  intro permitted
  have whole := permitted [] Instant.start [Instant.start, ⟨3000000000⟩] rfl
  norm_num [limit, Duration.toRat_eq, Instant.elapsedSince, Instant.start] at whole

end CachingGateway
