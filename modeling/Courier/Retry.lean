import Courier.Duration

/-! # Retry policy

A failed event is put back on its queue until its retries reach the limit.
With backoff, the wait before a retry starts at `base`, doubles with every
earlier retry, and never exceeds `max`.
-/

namespace Courier

structure Backoff where
  base : Duration
  max : Duration
  deriving DecidableEq, Inhabited

namespace Backoff

/-- Doubles `delay` up to `times` times and stops at the cap. A delay of zero
stays zero. -/
def grow (cap : Duration) : Nat → Duration → Duration
  | 0, delay => delay.min cap
  | times + 1, delay =>
      let next := delay.double
      if cap.nanos ≤ next.nanos then cap
      else if next.isZero then next
      else grow cap times next

/-- The wait before the retry that follows `retries` earlier ones. -/
def delay (b : Backoff) (retries : UInt32) : Duration :=
  grow b.max retries.toNat b.base

end Backoff

/-- What becomes of an event whose handler failed. -/
inductive RetryAction where
  | retry (delay : Option Duration)
  | deadLetter
  deriving DecidableEq, Inhabited

structure RetryPolicy where
  limit : UInt32
  /-- Without backoff an event is put back at once. -/
  backoff : Option Backoff
  deriving DecidableEq, Inhabited

namespace RetryPolicy

def default : RetryPolicy := ⟨3, none⟩

/-- The fate of an event that was put back `retries` times so far. -/
def next (p : RetryPolicy) (retries : UInt32) : RetryAction :=
  if retries < p.limit then .retry (p.backoff.map (·.delay retries)) else .deadLetter

end RetryPolicy

end Courier
