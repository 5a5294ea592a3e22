/-
Callers of a limiter do not disturb one another. What a key is answered hangs on its own bucket, the
clock and the sweeps; calls for other keys touch neither of them. So a run and the same run without
the calls for other keys answer the key alike, whatever numbers tokens are counted in.
-/

import CachingGateway.Proofs.Data.TableLaws
import CachingGateway.Proofs.RateLimit.LimiterRun

namespace CachingGateway

def LimiterStep.asks (key : String) : LimiterStep → Bool
  | .allow other | .wait other => other = key
  | .advance _ | .reclaim _ | .sweep _ _ | .stop => false

def LimiterStep.concerns (key : String) : LimiterStep → Bool
  | .allow other | .wait other => other = key
  | .advance _ | .reclaim _ | .sweep _ _ | .stop => true

theorem LimiterStep.asks_of_not_concerns {key : String} {step : LimiterStep}
    (foreign : step.concerns key = false) : step.asks key = false := by
  cases step with
  | allow other => exact foreign
  | wait other => exact foreign
  | advance length => rfl
  | reclaim idle => rfl
  | sweep interval idle => rfl
  | stop => rfl

variable {number : Type}

namespace Limiter

/-- Two limiters have the same bucket for one key, or neither has one. -/
structure AgreeOn (key : String) (left right : Limiter number) : Prop where
  limit : left.limit = right.limit
  leftDistinct : left.buckets.keys.Nodup
  rightDistinct : right.buckets.keys.Nodup
  same : left.buckets.find? key = right.buckets.find? key

namespace AgreeOn

variable {key : String} {left right : Limiter number}

theorem reclaim (agree : AgreeOn key left right) (now : Instant) (idle : Duration) :
    AgreeOn key (left.reclaim now idle) (right.reclaim now idle) where
  limit := agree.limit
  leftDistinct := Table.nodup_keys_filterValues agree.leftDistinct _
  rightDistinct := Table.nodup_keys_filterValues agree.rightDistinct _
  same := by
    change (left.buckets.filterValues _).find? key = (right.buckets.filterValues _).find? key
    rw [Table.find?_filterValues agree.leftDistinct, Table.find?_filterValues agree.rightDistinct,
      agree.same]

theorem sweeps (agree : AgreeOn key left right) (now : Instant) (due : List Sweep) :
    AgreeOn key (due.foldl (fun limiter sweep => limiter.reclaim now sweep.idle) left)
      (due.foldl (fun limiter sweep => limiter.reclaim now sweep.idle) right) := by
  induction due generalizing left right with
  | nil => exact agree
  | cons sweep rest ih => exact ih (agree.reclaim now sweep.idle)

variable [TokenNumber number]

theorem bucket (agree : AgreeOn key left right) (now : Instant) :
    left.bucket now key = right.bucket now key := by
  rw [Limiter.bucket, Limiter.bucket, agree.same, agree.limit]

theorem allow (agree : AgreeOn key left right) (now : Instant) :
    (left.allow now key).1 = (right.allow now key).1 ∧
      AgreeOn key (left.allow now key).2 (right.allow now key).2 := by
  have tokens : (left.bucket now key).projected left.limit now =
      (right.bucket now key).projected right.limit now := by
    rw [agree.bucket, agree.limit]
  refine ⟨congrArg hasToken tokens, ?_⟩
  refine
    { limit := agree.limit
      leftDistinct := Table.nodup_keys_insert agree.leftDistinct key _
      rightDistinct := Table.nodup_keys_insert agree.rightDistinct key _
      same := ?_ }
  rw [find?_allow, find?_allow, if_pos rfl, if_pos rfl, tokens]

theorem allow_other (agree : AgreeOn key left right) (now : Instant) {other : String}
    (different : other ≠ key) : AgreeOn key (left.allow now other).2 right where
  limit := agree.limit
  leftDistinct := Table.nodup_keys_insert agree.leftDistinct other _
  rightDistinct := agree.rightDistinct
  same := by
    rw [find?_allow, if_neg (Ne.symm different), agree.same]

theorem wait (agree : AgreeOn key left right) (now : Instant) :
    left.wait? now key = right.wait? now key := by
  simp only [wait?, agree.same, agree.limit]

end AgreeOn

end Limiter

/-! ### Running limiters -/

namespace SweptLimiter

/-- Two running limiters differ in the buckets of other keys only. -/
def AgreeOn (key : String) (left right : SweptLimiter number) : Prop :=
  ∃ limiter, right = { left with limiter := limiter } ∧ Limiter.AgreeOn key left.limiter limiter

variable [TokenNumber number] {key : String} {left right : SweptLimiter number}

theorem AgreeOn.step (agree : AgreeOn key left right) {step : LimiterStep}
    (concerned : step.concerns key = true) :
    (left.step step).1 = (right.step step).1 ∧
      AgreeOn key (left.step step).2 (right.step step).2 := by
  obtain ⟨limiter, rfl, limiters⟩ := agree
  cases step with
  | allow other =>
      cases of_decide_eq_true concerned
      obtain ⟨answer, after⟩ := limiters.allow left.now
      exact ⟨congrArg LimiterAnswer.admission answer, _, rfl, after⟩
  | wait other =>
      cases of_decide_eq_true concerned
      have forecast := limiters.wait left.now
      exact ⟨congrArg LimiterAnswer.forecast forecast, limiter, rfl, limiters⟩
  | advance length => exact ⟨rfl, _, rfl, limiters.sweeps _ _⟩
  | reclaim idle => exact ⟨rfl, _, rfl, limiters.reclaim left.now idle⟩
  | sweep interval idle => exact ⟨rfl, limiter, rfl, limiters⟩
  | stop => exact ⟨rfl, limiter, rfl, limiters⟩

theorem AgreeOn.step_foreign (agree : AgreeOn key left right) {step : LimiterStep}
    (foreign : step.concerns key = false) : AgreeOn key (left.step step).2 right := by
  obtain ⟨limiter, rfl, limiters⟩ := agree
  cases step with
  | allow other =>
      exact ⟨limiter, rfl, limiters.allow_other left.now (of_decide_eq_false foreign)⟩
  | wait other => exact ⟨limiter, rfl, limiters⟩
  | advance length => cases foreign
  | reclaim idle => cases foreign
  | sweep interval idle => cases foreign
  | stop => cases foreign

/-- The answers of a run to the calls for a key, in order. -/
def heard (swept : SweptLimiter number) (key : String) : List LimiterStep → List LimiterAnswer
  | [] => []
  | step :: rest =>
    (if step.asks key then [(swept.step step).1] else []) ++ (swept.step step).2.heard key rest

theorem AgreeOn.heard (agree : AgreeOn key left right) (steps : List LimiterStep) :
    left.heard key steps = right.heard key (steps.filter (·.concerns key)) := by
  induction steps generalizing left right with
  | nil => rfl
  | cons step rest ih =>
      cases concerned : step.concerns key with
      | true =>
          obtain ⟨answer, after⟩ := agree.step concerned
          rw [List.filter_cons_of_pos concerned, SweptLimiter.heard, SweptLimiter.heard, answer,
            ih after]
      | false =>
          have unasked := LimiterStep.asks_of_not_concerns concerned
          have kept : ¬step.concerns key = true := Bool.eq_false_iff.mp concerned
          rw [List.filter_cons_of_neg kept, SweptLimiter.heard, unasked,
            if_neg Bool.false_ne_true, List.nil_append, ih (agree.step_foreign concerned)]

/-- Whatever sweeps are set up when a limiter begins, a key is answered in a run as in the same run
without the calls for all other keys. -/
theorem heard_without_other_keys (limit : RateLimit number) (now : Instant) (sweeps : List Sweep)
    (stopped : Bool) (key : String) (steps : List LimiterStep) :
    let fresh : SweptLimiter number := ⟨Limiter.start limit, now, sweeps, stopped⟩
    fresh.heard key steps = fresh.heard key (steps.filter (·.concerns key)) := by
  intro fresh
  have itself : AgreeOn key fresh fresh :=
    ⟨Limiter.start limit, rfl,
      { limit := rfl
        leftDistinct := List.nodup_nil
        rightDistinct := List.nodup_nil
        same := rfl }⟩
  exact itself.heard steps

/-- The calls of a second caller take nothing from the first one. -/
example :
    (start (⟨1, 1⟩ : RateLimit Rat)).heard "first"
        [.allow "first", .allow "second", .advance (Duration.ofSeconds 1), .allow "second",
          .allow "first", .wait "first"] =
      [.admission true, .admission true, .forecast (some (Duration.ofSeconds 1))] := by
  decide +kernel

end SweptLimiter

end CachingGateway
