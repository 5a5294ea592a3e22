/-
What a forecast is worth over the rationals. The wait that a caller without a whole token is told is the
time that the rate takes for the missing part, up to half a nanosecond. A nanosecond after it the caller
is admitted, and more than a nanosecond before it is not, if nobody takes from its bucket or drops it in
between. Asking for a forecast changes nothing.
-/

import CachingGateway.Proofs.RateLimit.SoundBuckets
import CachingGateway.Proofs.RateLimit.WaitLength

namespace CachingGateway

/-! ### Refilling after a while -/

section

variable {limit : RateLimit Rat} {bucket : Bucket Rat} {now later : Instant}

theorem Bucket.projected_later (past : bucket.lastRefill.nanoseconds ≤ now.nanoseconds)
    (order : now.nanoseconds ≤ later.nanoseconds)
    (short : bucket.projected limit now < limit.burst) :
    bucket.projected limit later =
      min (bucket.projected limit now + (later.elapsedSince now).toRat * limit.rate)
        limit.burst := by
  have sum : bucket.projected limit now =
      bucket.tokens + (now.elapsedSince bucket.lastRefill).toRat * limit.rate := by
    rw [projected_eq] at short ⊢
    rcases min_lt_iff.mp short with less | impossible
    · exact min_eq_left less.le
    · exact absurd impossible (lt_irrefl _)
  rw [sum, projected_eq, Instant.elapsed_split past order, add_mul, add_assoc]

theorem Bucket.hasToken_later_iff (gaining : 0 < limit.rate) (holding : 1 ≤ limit.burst)
    (past : bucket.lastRefill.nanoseconds ≤ now.nanoseconds)
    (order : now.nanoseconds ≤ later.nanoseconds) (short : bucket.projected limit now < 1) :
    Limiter.hasToken (bucket.projected limit later) = true ↔
      (1 - bucket.projected limit now) / limit.rate ≤ (later.elapsedSince now).toRat := by
  have whole : (1 : ℚ) ≤ limit.burst := Nat.one_le_cast.mpr holding
  rw [Limiter.hasToken_iff, projected_later past order (short.trans_le whole), le_min_iff,
    and_iff_left whole, div_le_iff₀ gaining, sub_le_iff_le_add']

end

theorem Duration.reached_of_nearest {wait : Duration} {seconds : ℚ}
    (nearest : |wait.toRat - seconds| ≤ 1 / 2 / 1000000000) (passed : Duration) :
    (wait.nanoseconds + 1 ≤ passed.nanoseconds → seconds ≤ passed.toRat) ∧
      (passed.nanoseconds + 1 < wait.nanoseconds → passed.toRat < seconds) := by
  rw [toRat_eq, abs_le] at nearest
  rw [toRat_eq]
  constructor
  · intro late
    have cast : (wait.nanoseconds : ℚ) + 1 ≤ passed.nanoseconds := by exact_mod_cast late
    linarith [nearest.1]
  · intro early
    have cast : (passed.nanoseconds : ℚ) + 1 < wait.nanoseconds := by exact_mod_cast early
    linarith [nearest.2]

namespace SweptLimiter

section

variable {number : Type} [TokenNumber number] {key : String} {swept : SweptLimiter number}

/-- A step that takes no token of a key and drops no bucket. -/
def Spares (key : String) (swept : SweptLimiter number) : LimiterStep → Prop
  | .allow other => other ≠ key
  | .advance length => swept.dueSweeps (swept.now.advance length) = []
  | .reclaim _ => False
  | .wait _ | .sweep _ _ | .stop => True

def SparesAlong (key : String) (swept : SweptLimiter number) : List LimiterStep → Prop
  | [] => True
  | step :: rest => swept.Spares key step ∧ (swept.step step).2.SparesAlong key rest

theorem find?_step_of_spares {step : LimiterStep} (spares : swept.Spares key step) :
    (swept.step step).2.limiter.buckets.find? key = swept.limiter.buckets.find? key := by
  cases step with
  | allow other =>
      have written := Limiter.find?_allow swept.limiter swept.now other key
      exact written.trans (if_neg (Ne.symm spares))
  | wait other => rfl
  | advance length => exact congrArg (·.buckets.find? key) (advance_of_noneDue spares)
  | reclaim idle => cases spares
  | sweep interval idle => rfl
  | stop => rfl

theorem find?_run_of_spares {rest : List LimiterStep} (spares : swept.SparesAlong key rest) :
    (swept.run rest).limiter.buckets.find? key = swept.limiter.buckets.find? key := by
  induction rest generalizing swept with
  | nil => rfl
  | cons step rest ih => exact (ih spares.2).trans (find?_step_of_spares spares.1)

theorem now_le_run (swept : SweptLimiter number) (steps : List LimiterStep) :
    swept.now.nanoseconds ≤ (swept.run steps).now.nanoseconds := by
  induction steps generalizing swept with
  | nil => exact Nat.le_refl _
  | cons step rest ih => exact (now_le_step swept step).trans (ih (swept.step step).2)

theorem limit_run (swept : SweptLimiter number) (steps : List LimiterStep) :
    (swept.run steps).limiter.limit = swept.limiter.limit := by
  induction steps generalizing swept with
  | nil => rfl
  | cons step rest ih => exact (ih (swept.step step).2).trans (limit_step swept step)

end

variable {limit : RateLimit Rat} {swept : SweptLimiter Rat} {key : String} {bucket : Bucket Rat}

/-- After a run that spares a key, a caller that had no token is admitted once the time for the missing
part has passed. -/
theorem Sound.allow_iff_passed (sound : Sound limit (fun tokens => 0 ≤ tokens) swept)
    (gaining : 0 < limit.rate) (holding : 1 ≤ limit.burst)
    (held : swept.limiter.buckets.find? key = some bucket)
    (short : bucket.projected limit swept.now < 1) {rest : List LimiterStep}
    (spares : swept.SparesAlong key rest) :
    ((swept.run rest).allow key).1 = true ↔
      (1 - bucket.projected limit swept.now) / limit.rate ≤
        ((swept.run rest).now.elapsedSince swept.now).toRat := by
  have still := (find?_run_of_spares spares).trans held
  have sameLimit := (limit_run swept rest).trans sound.limit
  have asked : (swept.run rest).limiter.bucket (swept.run rest).now key = bucket := by
    rw [Limiter.bucket, still, Option.getD_some]
  have answer : ((swept.run rest).allow key).1 =
      Limiter.hasToken (((swept.run rest).limiter.bucket (swept.run rest).now key).projected
        (swept.run rest).limiter.limit (swept.run rest).now) := rfl
  rw [answer, asked, sameLimit]
  exact Bucket.hasToken_later_iff gaining holding (sound.past key bucket held)
    (now_le_run swept rest) short

theorem Sound.wait?_nearest (sound : Sound limit (fun tokens => 0 ≤ tokens) swept)
    (gaining : 0 < limit.rate) (held : swept.limiter.buckets.find? key = some bucket)
    (short : bucket.projected limit swept.now < 1)
    (bounded : (1 - bucket.projected limit swept.now) / limit.rate < 2 ^ 64 - 1) :
    ∃ wait, swept.wait? key = some wait ∧
      |wait.toRat - (1 - bucket.projected limit swept.now) / limit.rate| ≤ 1 / 2 / 1000000000 := by
  have missing : 0 ≤ 1 - bucket.projected limit swept.now := sub_nonneg.mpr short.le
  obtain ⟨wait, converted, nearest⟩ :=
    Duration.ofRat?_nearest (div_nonneg missing gaining.le) bounded.le
  refine ⟨wait, ?_, nearest⟩
  have whole : (TokenNumber.ofNat 1 : ℚ) = 1 := Nat.cast_one
  have without : ¬Limiter.hasToken (bucket.projected limit swept.now) = true := by
    rw [Limiter.hasToken_iff]
    exact not_le.mpr short
  rw [wait?, Limiter.wait?, held]
  dsimp only
  rw [sound.limit, if_neg without, whole]
  exact converted

/-- The forecast for a caller without a whole token is tight and takes nothing. It is the time for the
missing part of a token to the nearest nanosecond, and no more than the time for a whole one. From a
nanosecond after it on the caller is admitted, and up to a nanosecond before it the caller is denied, if
its bucket is neither used nor reclaimed until then. A forecast makes no bucket and changes no answer. -/
theorem forecast_is_tight (limit : RateLimit Rat) (gaining : 0 < limit.rate)
    (holding : 1 ≤ limit.burst) (steps : List LimiterStep) (key : String) :
    let swept := (bare limit).run steps
    (∀ bucket, swept.limiter.buckets.find? key = some bucket →
      let tokens := bucket.projected limit swept.now
      tokens < 1 → (1 - tokens) / limit.rate < 2 ^ 64 - 1 →
      ∃ wait, swept.wait? key = some wait ∧
        |wait.toRat - (1 - tokens) / limit.rate| ≤ 1 / 2 / 1000000000 ∧
        wait.toRat ≤ 1 / limit.rate + 1 / 2 / 1000000000 ∧
        ∀ rest, swept.SparesAlong key rest →
          let later := swept.run rest
          ((swept.now.advance wait).nanoseconds + 1 ≤ later.now.nanoseconds →
            (later.allow key).1 = true) ∧
          (later.now.nanoseconds + 1 < (swept.now.advance wait).nanoseconds →
            (later.allow key).1 = false)) ∧
    ∀ asked,
      let after := (swept.step (.wait asked)).2
      after.limiter.buckets.keys = swept.limiter.buckets.keys ∧
        ∀ rest, after.answers rest = swept.answers rest := by
  intro swept
  have sound : Sound limit (fun tokens => 0 ≤ tokens) swept :=
    (sound_bare limit _).run (keptByCalls_nonneg gaining) steps
  constructor
  · intro bucket held tokens short bounded
    obtain ⟨wait, told, nearest⟩ := sound.wait?_nearest gaining held short bounded
    refine ⟨wait, told, nearest, ?_, ?_⟩
    · have owed : 0 ≤ tokens :=
        (keptByCalls_nonneg gaining).projected bucket swept.now (sound.holds key bucket held)
      have part : (1 - tokens) / limit.rate ≤ 1 / limit.rate := by
        apply div_le_div_of_nonneg_right
        · exact sub_le_self 1 owed
        · exact gaining.le
      have error := (abs_le.mp nearest).2
      linarith
    · intro rest spares later
      have admitted := sound.allow_iff_passed gaining holding held short spares
      have reached := Duration.reached_of_nearest nearest (later.now.elapsedSince swept.now)
      have order : swept.now.nanoseconds ≤ later.now.nanoseconds := now_le_run swept rest
      have ending : (swept.now.advance wait).nanoseconds =
          swept.now.nanoseconds + wait.nanoseconds := rfl
      have passed : (later.now.elapsedSince swept.now).nanoseconds =
          later.now.nanoseconds - swept.now.nanoseconds := rfl
      constructor
      · intro late
        apply admitted.mpr
        apply reached.1
        omega
      · intro early
        rw [← Bool.not_eq_true, admitted, not_le]
        apply reached.2
        omega
  · intro asked after
    exact ⟨rfl, fun _ => rfl⟩

/-- At three tokens a second the wait for a whole one is rounded down, and a nanosecond more is needed. -/
theorem forecast_is_tight_at_three_each_second :
    let swept := (bare (⟨3, 1⟩ : RateLimit Rat)).run [.allow "caller"]
    let bucket : Bucket Rat := ⟨0, Instant.start⟩
    let rest : List LimiterStep := [.allow "other", .wait "caller", .advance ⟨333333334⟩]
    swept.limiter.buckets.find? "caller" = some bucket ∧
      bucket.projected ⟨3, 1⟩ swept.now = 0 ∧ swept.SparesAlong "caller" rest ∧
      swept.wait? "caller" = some ⟨333333333⟩ ∧ ((swept.run rest).allow "caller").1 = true := by
  intro swept bucket rest
  have held : swept.limiter.buckets.find? "caller" = some bucket := by decide +kernel
  have level : bucket.projected ⟨3, 1⟩ swept.now = 0 := by decide +kernel
  have apart : "other" ≠ "caller" := by decide
  have spares : swept.SparesAlong "caller" rest := ⟨apart, trivial, rfl, trivial⟩
  have told : swept.wait? "caller" = some ⟨333333333⟩ := by decide +kernel
  have ended : ((swept.run rest).now).nanoseconds = 333333334 := by decide +kernel
  obtain ⟨wait, same, _, _, later⟩ :=
    (forecast_is_tight ⟨3, 1⟩ (by norm_num) (by decide) [.allow "caller"] "caller").1 bucket held
      (by rw [level]; norm_num) (by rw [level]; norm_num)
  cases told.symm.trans same
  refine ⟨held, level, spares, told, (later rest spares).1 ?_⟩
  exact ended.ge

end SweptLimiter

end CachingGateway
