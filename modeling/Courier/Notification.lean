import Courier.Channel
import Courier.NotificationId
import Courier.Timestamp

/-! # Notifications

A notification is addressed to one user. Its status is changed at a moment,
which becomes the time of its last update.
-/

namespace Courier

/-- Business category; it decides on the channels used by default. -/
inductive Category where
  | transaction
  | marketing
  | security
  | system
  deriving DecidableEq, Inhabited, Repr

namespace Category

def all : List Category :=
  [.transaction, .marketing, .security, .system]

def name : Category → String
  | .transaction => "transaction"
  | .marketing => "marketing"
  | .security => "security"
  | .system => "system"

theorem name_injective {a b : Category} (h : a.name = b.name) : a = b := by
  cases a <;> cases b <;> first | rfl | exact absurd h (by decide)

theorem colon_notMem_name (c : Category) : ':' ∉ c.name.toList := by
  cases c <;> decide

end Category

inductive Status where
  | created
  | queued
  | processing
  | sent
  | failed
  | delivered
  | read
  deriving DecidableEq, Inhabited, Repr

namespace Status

def all : List Status :=
  [.created, .queued, .processing, .sent, .failed, .delivered, .read]

def name : Status → String
  | .created => "created"
  | .queued => "queued"
  | .processing => "processing"
  | .sent => "sent"
  | .failed => "failed"
  | .delivered => "delivered"
  | .read => "read"

end Status

structure Notification where
  id : NotificationId
  user : String
  category : Category
  title : String
  content : String
  status : Status
  priority : Int32
  createdAt : Timestamp
  updatedAt : Timestamp
  deriving DecidableEq, Inhabited

namespace Notification

/-- A notification as it is created at `now`. -/
def create (id : NotificationId) (user : String) (category : Category) (title content : String)
    (now : Timestamp) : Notification where
  id := id
  user := user
  category := category
  title := title
  content := content
  status := .created
  priority := 1
  createdAt := now
  updatedAt := now

def withStatus (n : Notification) (status : Status) (now : Timestamp) : Notification :=
  { n with status := status, updatedAt := now }

end Notification

/-- The channels a user has opted into. Quiet hours are hours of the day; zero
in both means that there are none. -/
structure Preference where
  user : String
  channels : List Channel
  quietFrom : UInt8
  quietUntil : UInt8
  deriving DecidableEq, Inhabited

namespace Preference

def ofChannels (user : String) (channels : List Channel) : Preference :=
  ⟨user, channels, 0, 0⟩

def allows (p : Preference) (c : Channel) : Bool :=
  p.channels.contains c

end Preference

end Courier
