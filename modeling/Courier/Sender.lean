import Courier.Notification

/-! # Simulated senders

A simulated sender fails at a given rate and counts what it sends. Chance is
passed in: a send fails if the number drawn for it, from zero to below one, is
less than the failure rate.
-/

namespace Courier

/-- Failure of a transport. -/
inductive SendError where
  | transient (channel : Channel) (reason : String)
  | unavailable (channel : Channel) (reason : String)
  deriving DecidableEq, Repr

namespace SendError

def message : SendError → String
  | .transient channel reason => "[" ++ channel.name ++ "] transient failure: " ++ reason
  | .unavailable channel reason => "[" ++ channel.name ++ "] unavailable: " ++ reason

end SendError

structure Sender where
  channel : Channel
  failureRate : Float
  healthy : Bool
  sent : Nat
  failed : Nat
  deriving Inhabited

namespace Sender

/-- Rates below zero count as zero and those above one as one; a rate that is
not a number stays as it is. -/
def clampRate (rate : Float) : Float :=
  if rate < 0.0 then 0.0 else if 1.0 < rate then 1.0 else rate

def ofRate (channel : Channel) (rate : Float) : Sender :=
  ⟨channel, clampRate rate, true, 0, 0⟩

/-- A sender that never fails. -/
def reliable (channel : Channel) : Sender :=
  ofRate channel 0.0

def withHealth (s : Sender) (healthy : Bool) : Sender :=
  { s with healthy := healthy }

/-- Chance decides against the send. -/
def isUnlucky (s : Sender) (draw : Float) : Bool :=
  0.0 < s.failureRate && draw < s.failureRate

def send (s : Sender) (n : Notification) (draw : Float) : Sender × Except SendError Unit :=
  if !s.healthy then
    ({ s with failed := s.failed + 1 },
      .error (.unavailable s.channel "transport marked unhealthy"))
  else if s.isUnlucky draw then
    ({ s with failed := s.failed + 1 },
      .error (.transient s.channel ("simulated failure for notification " ++ n.id.text)))
  else ({ s with sent := s.sent + 1 }, .ok ())

def healthCheck (s : Sender) : Except SendError Unit :=
  if s.healthy then .ok () else .error (.unavailable s.channel "health check failed")

end Sender

end Courier
