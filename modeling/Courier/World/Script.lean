import Courier.Event
import Courier.Table

/-! # Scripts

A script fixes how the calls of a handler or sender end, by subject and by
how often the subject has come up.
-/

namespace Courier

/-- How a scripted call ends. -/
inductive Outcome where
  | ok
  | transient
  | unavailable
  | invalid
  | other
  | panic
  deriving DecidableEq, Inhabited, Repr

namespace Outcome

def all : List Outcome :=
  [.ok, .transient, .unavailable, .invalid, .other, .panic]

def name : Outcome → String
  | .ok => "ok"
  | .transient => "transient"
  | .unavailable => "unavailable"
  | .invalid => "invalid"
  | .other => "other"
  | .panic => "panic"

end Outcome

/-- What a scripted call is about. -/
abbrev Subject := String

structure Script where
  /-- The outcome of calls for which nothing else is set. -/
  usual : Outcome
  /-- How long a call takes, in milliseconds. -/
  delay : Nat
  outcomes : List (Subject × List Outcome)
  delays : List (Subject × Nat)
  /-- Whether the calls are recorded with what they were given. -/
  records : Bool
  calls : Table Subject Nat

namespace Script

/-- How often the subject has come up. -/
def count (s : Script) (x : Subject) : Nat :=
  s.calls.getD x 0

def outcome (s : Script) (x : Subject) : Outcome :=
  ((s.outcomes.lookup x).bind (·[s.count x]?)).getD s.usual

def delayFor (s : Script) (x : Subject) : Nat :=
  (s.delays.lookup x).getD s.delay

/-- Goes on to the next call for a subject. -/
def turn (s : Script) (x : Subject) : Script :=
  { s with calls := s.calls.insert x (s.count x + 1) }

end Script

/-- What a scripted call was given. -/
inductive Given where
  | event (routed : RoutedNotification)
  | notification (n : Notification)

structure LogEntry where
  time : Nat
  who : String
  subject : Subject
  /-- How often the event was put back on its queue. -/
  retries : UInt32
  outcome : Outcome
  given : Option Given

namespace LogEntry

/-- The order of the log: by time, then who was called, for what, and after
how many retries. -/
def le (a b : LogEntry) : Bool :=
  match compare a.time b.time with
  | .lt => true
  | .gt => false
  | .eq =>
      match compare a.who b.who with
      | .lt => true
      | .gt => false
      | .eq =>
          match compare a.subject b.subject with
          | .lt => true
          | .gt => false
          | .eq => a.retries ≤ b.retries

end LogEntry

end Courier
