import Courier.Attempt
import Courier.Table

/-! # Repository

Notifications by identifier, and one attempt record for each notification and
channel. While the repository rejects writes, nothing changes in it.
-/

namespace Courier

inductive StorageError where
  | notFound (record : String)
  | duplicate (record : String)
  | unavailable (reason : String)
  deriving DecidableEq, Repr

namespace StorageError

def message : StorageError → String
  | .notFound record => "Record not found: " ++ record
  | .duplicate record => "Duplicate record: " ++ record
  | .unavailable reason => "Storage unavailable: " ++ reason

/-- The error of every write while writes are rejected. -/
def rejectingWrites : StorageError :=
  .unavailable "memory repository is rejecting writes"

end StorageError

structure Repository where
  notifications : Table NotificationId Notification
  attempts : Table (NotificationId × Channel) Attempt
  rejectsWrites : Bool
  deriving DecidableEq

namespace Repository

def empty : Repository := ⟨Table.empty, Table.empty, false⟩

instance : Inhabited Repository := ⟨empty⟩

def rejecting (r : Repository) (on : Bool) : Repository :=
  { r with rejectsWrites := on }

/-- How messages name a notification. -/
def notificationName (id : NotificationId) : String :=
  "notification " ++ id.text

def attemptName (id : NotificationId) (c : Channel) : String :=
  "attempt " ++ id.text ++ ":" ++ c.name

/-- Adds a notification that is not there yet. -/
def save (r : Repository) (n : Notification) : Except StorageError Repository :=
  if r.rejectsWrites then .error .rejectingWrites
  else if r.notifications.contains n.id then .error (.duplicate (notificationName n.id))
  else .ok { r with notifications := r.notifications.insert n.id n }

/-- A notification with this identifier would be stored. -/
def accepts (r : Repository) (id : NotificationId) : Bool :=
  !r.rejectsWrites && !r.notifications.contains id

theorem save_eq_ok_iff {r r' : Repository} {n : Notification} :
    r.save n = .ok r' ↔
      r.rejectsWrites = false ∧ r.notifications.contains n.id = false ∧
        r' = { r with notifications := r.notifications.insert n.id n } := by
  unfold save
  split
  next hrejects => simp [hrejects]
  next haccepts =>
    split
    next hheld => simp [hheld]
    next hfree => simp [haccepts, hfree, eq_comm]

theorem exists_save_of_accepts {r : Repository} {n : Notification}
    (haccepts : r.accepts n.id = true) : ∃ r', r.save n = .ok r' := by
  rw [accepts, Bool.and_eq_true, Bool.not_eq_true', Bool.not_eq_true'] at haccepts
  exact ⟨_, save_eq_ok_iff.mpr ⟨haccepts.1, haccepts.2, rfl⟩⟩

def find? (r : Repository) (id : NotificationId) : Option Notification :=
  r.notifications.get? id

/-- Adds the record of a notification and channel that have none yet. -/
def saveAttempt (r : Repository) (a : Attempt) : Except StorageError Repository :=
  if r.rejectsWrites then .error .rejectingWrites
  else if r.attempts.contains a.key then
    .error (.duplicate (attemptName a.notification a.channel))
  else .ok { r with attempts := r.attempts.insert a.key a }

/-- Replaces the record of the same notification and channel. -/
def updateAttempt (r : Repository) (a : Attempt) : Except StorageError Repository :=
  if r.rejectsWrites then .error .rejectingWrites
  else if r.attempts.contains a.key then
    .ok { r with attempts := r.attempts.insert a.key a }
  else .error (.notFound (attemptName a.notification a.channel))

def findAttempt? (r : Repository) (id : NotificationId) (c : Channel) : Option Attempt :=
  r.attempts.get? (id, c)

/-- The records of a notification, in the order of the channels. -/
def attemptsOf (r : Repository) (id : NotificationId) : List Attempt :=
  Channel.all.filterMap fun c => r.findAttempt? id c

end Repository

end Courier
