import Courier.Notification

/-! # Events

An event carries a snapshot of a notification together with the channels it
is routed to. It counts how often it was put back on a queue.
-/

namespace Courier

/-- A copy of a notification, routed to channels. -/
structure RoutedNotification where
  notification : Notification
  channels : List Channel
  deriving DecidableEq, Inhabited

/-- What an event carries. -/
inductive Payload where
  | notification (routed : RoutedNotification)
  deriving DecidableEq, Inhabited

structure Event where
  id : String
  payload : Payload
  retries : UInt32
  deriving DecidableEq, Inhabited

namespace Event

def ofNotification (id : String) (routed : RoutedNotification) : Event :=
  ⟨id, .notification routed, 0⟩

/-- The snapshot that the event carries. -/
def routed (e : Event) : RoutedNotification :=
  match e.payload with
  | .notification routed => routed

/-- The event after one more return to the queue. -/
def again (e : Event) : Event :=
  { e with retries := e.retries + 1 }

/-- The identifier of the event for one channel of a notification. -/
def idFor (n : NotificationId) (c : Channel) : String :=
  n.text ++ ":" ++ c.name

end Event

end Courier
