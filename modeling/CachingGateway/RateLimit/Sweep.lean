/-
Sweeps of idle buckets. A sweep is due at whole multiples of its interval after it was set up; all
that fall due in one advance of the clock see the time after it. Once stopped, none is ever due.
-/

import CachingGateway.RateLimit.Limiter

namespace CachingGateway

structure Sweep where
  begun : Instant
  interval : Duration
  idle : Duration
  deriving DecidableEq, Repr

namespace Sweep

def dueCount (sweep : Sweep) (now : Instant) : Nat :=
  (now.elapsedSince sweep.begun).nanoseconds / sweep.interval.nanoseconds

def fallsDue (sweep : Sweep) (before after : Instant) : Bool :=
  sweep.dueCount before < sweep.dueCount after

end Sweep

structure SweptLimiter (number : Type) where
  limiter : Limiter number
  now : Instant
  sweeps : List Sweep
  stopped : Bool

namespace SweptLimiter

variable {number : Type} [TokenNumber number]

/-- The interval and threshold of the sweep that a running service sets up. -/
def standardInterval : Duration := Duration.ofSeconds 60
def standardIdle : Duration := Duration.ofSeconds 300

def bare (limit : RateLimit number) : SweptLimiter number :=
  ⟨Limiter.start limit, Instant.start, [], false⟩

def addSweep (swept : SweptLimiter number) (interval idle : Duration) : SweptLimiter number :=
  { swept with sweeps := swept.sweeps ++ [⟨swept.now, interval, idle⟩] }

def start (limit : RateLimit number) : SweptLimiter number :=
  (bare limit).addSweep standardInterval standardIdle

/-- Ends all sweeps, those set up later included. -/
def stop (swept : SweptLimiter number) : SweptLimiter number :=
  { swept with stopped := true }

def allow (swept : SweptLimiter number) (key : String) : Bool × SweptLimiter number :=
  let (admitted, limiter) := swept.limiter.allow swept.now key
  (admitted, { swept with limiter := limiter })

def wait? (swept : SweptLimiter number) (key : String) : Option Duration :=
  swept.limiter.wait? swept.now key

def reclaim (swept : SweptLimiter number) (idle : Duration) : SweptLimiter number :=
  { swept with limiter := swept.limiter.reclaim swept.now idle }

def dueSweeps (swept : SweptLimiter number) (later : Instant) : List Sweep :=
  if swept.stopped then [] else swept.sweeps.filter fun sweep => sweep.fallsDue swept.now later

def advance (swept : SweptLimiter number) (length : Duration) : SweptLimiter number :=
  let later := swept.now.advance length
  { swept with
    now := later
    limiter := (swept.dueSweeps later).foldl
      (fun limiter sweep => limiter.reclaim later sweep.idle) swept.limiter }

end SweptLimiter

end CachingGateway
