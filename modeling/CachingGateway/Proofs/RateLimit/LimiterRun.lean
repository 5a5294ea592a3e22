/-
Runs of a limiter: callers are admitted or denied, forecasts are made, time passes, and idle buckets are
dropped, at once or by sweeps that are set up and ended. Uses are the steps that drop no bucket on a
limiter without sweeps.
-/

import CachingGateway.Proofs.Data.TableLaws
import CachingGateway.RateLimit.Sweep

namespace CachingGateway

inductive LimiterStep where
  | allow (key : String)
  | wait (key : String)
  | advance (length : Duration)
  | reclaim (idle : Duration)
  | sweep (interval idle : Duration)
  | stop
  deriving DecidableEq, Repr

inductive LimiterAnswer where
  | admission (admitted : Bool)
  | forecast (wait? : Option Duration)
  | nothing
  deriving DecidableEq, Repr

def LimiterStep.isUse : LimiterStep → Bool
  | .allow _ | .wait _ | .advance _ => true
  | .reclaim _ | .sweep _ _ | .stop => false

namespace Limiter

variable {number : Type} [TokenNumber number]

def leftover (tokens : number) : number :=
  if hasToken tokens then tokens - TokenNumber.ofNat 1 else tokens

theorem find?_allow (limiter : Limiter number) (now : Instant) (key sought : String) :
    (limiter.allow now key).2.buckets.find? sought =
      if sought = key then
        some ⟨leftover ((limiter.bucket now key).projected limiter.limit now), now⟩
      else limiter.buckets.find? sought :=
  Table.find?_insert limiter.buckets key sought _

theorem held_before_reclaim {number : Type} {limiter : Limiter number}
    (distinct : limiter.buckets.keys.Nodup) {now : Instant} {idle : Duration} {key : String}
    {bucket : Bucket number} (found : (limiter.reclaim now idle).buckets.find? key = some bucket) :
    limiter.buckets.find? key = some bucket := by
  have kept := (Table.find?_filterValues distinct _ key).symm.trans found
  exact (Option.filter_eq_some_iff.mp kept).1

end Limiter

/-! ### Properties of counts that calls keep -/

section

variable {number : Type} [TokenNumber number] {limit : RateLimit number} {holds : number → Prop}
  {limiter : Limiter number}

/-- A full bucket has the property, and refilling a bucket and taking a token from it keep it. -/
structure KeptByCalls (limit : RateLimit number) (holds : number → Prop) : Prop where
  capacity : holds limit.capacity
  projected : ∀ (bucket : Bucket number) now, holds bucket.tokens →
    holds (bucket.projected limit now)
  taken : ∀ tokens, holds tokens → Limiter.hasToken tokens = true →
    holds (tokens - TokenNumber.ofNat 1)

namespace KeptByCalls

theorem leftover (kept : KeptByCalls limit holds) {tokens : number} (held : holds tokens) :
    holds (Limiter.leftover tokens) := by
  rw [Limiter.leftover]
  split
  · rename_i ready
    exact kept.taken tokens held ready
  · exact held

theorem bucket (kept : KeptByCalls limit holds) (sameLimit : limiter.limit = limit) {key : String}
    (held : ∀ bucket, limiter.buckets.find? key = some bucket → holds bucket.tokens)
    (now : Instant) : holds (limiter.bucket now key).tokens := by
  rw [Limiter.bucket]
  cases found : limiter.buckets.find? key with
  | none =>
      rw [sameLimit]
      exact kept.capacity
  | some bucket => exact held bucket found

theorem allow (kept : KeptByCalls limit holds) (sameLimit : limiter.limit = limit)
    (held : ∀ key bucket, limiter.buckets.find? key = some bucket → holds bucket.tokens)
    (now : Instant) (key sought : String) (bucket : Bucket number)
    (found : (limiter.allow now key).2.buckets.find? sought = some bucket) :
    holds bucket.tokens := by
  rw [Limiter.find?_allow] at found
  split at found
  · cases found
    apply kept.leftover
    rw [sameLimit]
    exact kept.projected _ now (kept.bucket sameLimit (held key) now)
  · exact held sought bucket found

end KeptByCalls

end

namespace SweptLimiter

variable {number : Type}

theorem advance_of_noneDue {swept : SweptLimiter number} {length : Duration}
    (noneDue : swept.dueSweeps (swept.now.advance length) = []) :
    (swept.advance length).limiter = swept.limiter := by
  simp only [advance, noneDue, List.foldl_nil]

theorem advance_unswept {swept : SweptLimiter number} (unswept : swept.sweeps = [])
    (length : Duration) : (swept.advance length).limiter = swept.limiter := by
  refine advance_of_noneDue ?_
  rw [dueSweeps, unswept, List.filter_nil, ite_self]

theorem advance_stopped {swept : SweptLimiter number} (stopped : swept.stopped = true)
    (length : Duration) : (swept.advance length).limiter = swept.limiter := by
  refine advance_of_noneDue ?_
  rw [dueSweeps, if_pos stopped]

variable [TokenNumber number]

def step (swept : SweptLimiter number) : LimiterStep → LimiterAnswer × SweptLimiter number
  | .allow key => (.admission (swept.allow key).1, (swept.allow key).2)
  | .wait key => (.forecast (swept.wait? key), swept)
  | .advance length => (.nothing, swept.advance length)
  | .reclaim idle => (.nothing, swept.reclaim idle)
  | .sweep interval idle => (.nothing, swept.addSweep interval idle)
  | .stop => (.nothing, swept.stop)

def run (swept : SweptLimiter number) (steps : List LimiterStep) : SweptLimiter number :=
  steps.foldl (fun held step => (held.step step).2) swept

def answers (swept : SweptLimiter number) : List LimiterStep → List LimiterAnswer
  | [] => []
  | step :: rest => (swept.step step).1 :: (swept.step step).2.answers rest

def admitted (swept : SweptLimiter number) (key : String) (step : LimiterStep) : List Instant :=
  if step = .allow key ∧ (swept.step step).1 = .admission true then [swept.now] else []

def admissions (swept : SweptLimiter number) (key : String) : List LimiterStep → List Instant
  | [] => []
  | step :: rest => swept.admitted key step ++ (swept.step step).2.admissions key rest

theorem run_append (swept : SweptLimiter number) (earlier later : List LimiterStep) :
    swept.run (earlier ++ later) = (swept.run earlier).run later :=
  List.foldl_append

theorem admissions_append (swept : SweptLimiter number) (key : String)
    (earlier later : List LimiterStep) :
    swept.admissions key (earlier ++ later) =
      swept.admissions key earlier ++ (swept.run earlier).admissions key later := by
  induction earlier generalizing swept with
  | nil => rfl
  | cons step rest ih =>
      rw [List.cons_append, admissions, admissions, ih, List.append_assoc]
      rfl

end SweptLimiter

end CachingGateway
