import Courier.Notification

/-! # Delivery attempts

One record is kept for each notification and channel. It counts the tries and
holds the outcome of the last one.
-/

namespace Courier

inductive AttemptStatus where
  | pending
  | success
  | failed
  deriving DecidableEq, Inhabited, Repr

namespace AttemptStatus

def all : List AttemptStatus :=
  [.pending, .success, .failed]

def name : AttemptStatus → String
  | .pending => "pending"
  | .success => "success"
  | .failed => "failed"

end AttemptStatus

structure Attempt where
  notification : NotificationId
  channel : Channel
  count : UInt32
  lastAt : Option Timestamp
  status : AttemptStatus
  deriving DecidableEq, Inhabited

namespace Attempt

/-- The record before the first try. -/
def fresh (notification : NotificationId) (channel : Channel) : Attempt :=
  ⟨notification, channel, 0, none, .pending⟩

/-- Counts one more try. -/
def increment (a : Attempt) (now : Timestamp) : Attempt :=
  { a with count := a.count + 1, lastAt := some now }

def withStatus (a : Attempt) (status : AttemptStatus) : Attempt :=
  { a with status := status }

/-- What identifies the record. -/
def key (a : Attempt) : NotificationId × Channel :=
  (a.notification, a.channel)

end Attempt

end Courier
