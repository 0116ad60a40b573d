import Courier.Json.Value

/-! # Statistics of a consumer -/

namespace Courier

structure Stats where
  /-- Handler invocations. -/
  handled : Nat
  delivered : Nat
  failedAttempts : Nat
  retried : Nat
  deadLettered : Nat
  /-- Events that were refused because the live queue was full. -/
  dropped : Nat
  /-- Events given up on shutdown while they waited for a retry or for the
  dead-letter queue. -/
  abandoned : Nat
  /-- Accepted events without an outcome so far. -/
  outstanding : Nat
  deriving DecidableEq, Repr

namespace Stats

def zero : Stats := ⟨0, 0, 0, 0, 0, 0, 0, 0⟩

instance : Inhabited Stats := ⟨zero⟩

def add (a b : Stats) : Stats where
  handled := a.handled + b.handled
  delivered := a.delivered + b.delivered
  failedAttempts := a.failedAttempts + b.failedAttempts
  retried := a.retried + b.retried
  deadLettered := a.deadLettered + b.deadLettered
  dropped := a.dropped + b.dropped
  abandoned := a.abandoned + b.abandoned
  outstanding := a.outstanding + b.outstanding

def sum (parts : List Stats) : Stats :=
  parts.foldl add zero

/-- Names and values in the order of declaration. -/
def entries (s : Stats) : List (String × Nat) := [
  ("handled", s.handled),
  ("delivered", s.delivered),
  ("failed_attempts", s.failedAttempts),
  ("retried", s.retried),
  ("dead_lettered", s.deadLettered),
  ("dropped", s.dropped),
  ("abandoned", s.abandoned),
  ("outstanding", s.outstanding)]

def encode (s : Stats) : Json.Value :=
  .object (s.entries.map fun (name, n) => (name, .nat n))

end Stats

end Courier
