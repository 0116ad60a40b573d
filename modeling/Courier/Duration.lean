/-! # Durations

Spans of time in whole nanoseconds, up to just under `2 ^ 64` seconds.
Arithmetic saturates at that limit and at zero.
-/

namespace Courier

structure Duration where
  nanos : Nat
  inRange : nanos < 18446744073709551616000000000
  deriving DecidableEq

namespace Duration

/-- The longest duration, in nanoseconds. -/
def maxNanos : Nat := 18446744073709551615999999999

/-- The duration of `n` nanoseconds, or the longest one. -/
def saturated (n : Nat) : Duration :=
  ⟨Min.min n maxNanos, by unfold maxNanos; omega⟩

def zero : Duration := ⟨0, by decide⟩

instance : Inhabited Duration := ⟨zero⟩

def ofSeconds (s : UInt64) : Duration :=
  ⟨s.toNat * 1000000000, by have := s.toNat_lt; omega⟩

def ofMillis (ms : UInt64) : Duration :=
  ⟨ms.toNat * 1000000, by have := ms.toNat_lt; omega⟩

def isZero (d : Duration) : Bool :=
  d.nanos = 0

def max (a b : Duration) : Duration :=
  if a.nanos < b.nanos then b else a

def min (a b : Duration) : Duration :=
  if b.nanos < a.nanos then b else a

def double (d : Duration) : Duration :=
  saturated (2 * d.nanos)

/-- What is left of `d` after `n` nanoseconds. -/
def less (d : Duration) (n : Nat) : Duration :=
  ⟨d.nanos - n, Nat.lt_of_le_of_lt (Nat.sub_le _ _) d.inRange⟩

/-- Whole seconds, rounded down. -/
def seconds (d : Duration) : Nat :=
  d.nanos / 1000000000

/-- Whole milliseconds, rounded down. -/
def millis (d : Duration) : Nat :=
  d.nanos / 1000000

/-- Whole milliseconds that cover the duration. -/
def coveringMillis (d : Duration) : Nat :=
  (d.nanos + 999999) / 1000000

theorem ext {a b : Duration} (h : a.nanos = b.nanos) : a = b := by
  cases a; cases b; simp_all

theorem nanos_le (d : Duration) : d.nanos ≤ maxNanos := by
  have := d.inRange
  unfold maxNanos
  omega

theorem nanos_double (d : Duration) : d.double.nanos = Min.min (2 * d.nanos) maxNanos := rfl

theorem nanos_max (a b : Duration) : (a.max b).nanos = Max.max a.nanos b.nanos := by
  unfold max
  split <;> omega

theorem nanos_min (a b : Duration) : (a.min b).nanos = Min.min a.nanos b.nanos := by
  unfold min
  split <;> omega

end Duration

end Courier
