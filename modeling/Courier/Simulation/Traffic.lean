import Courier.Intake

/-! # Traffic

The requests of a simulation. Publishers share the numbers of the requests:
each starts with its own number and goes on in steps of the count of
publishers.
-/

namespace Courier

/-- What is left to chance: who a request is for, and the identifier of its
notification, by the number of the request. -/
structure Traffic where
  user : Nat → String
  id : Nat → NotificationId

namespace Traffic

/-- Users picked at random; identifiers differ from each other. -/
def ofSeed (seed users : Nat) : Traffic where
  user i := "user-" ++ toString (randNat (mkStdGen (seed + i)) 0 (users - 1)).1
  id i := .random (BitVec.ofNat 122 (seed * UInt64.size + i))

/-- The numbers that publisher `p` of `publishers` handles, out of `count`. -/
def share (count publishers p : Nat) : List Nat :=
  List.range' p ((count - p + (publishers - 1)) / publishers) publishers

/-- The numbers of all requests, one publisher after the other. -/
def order (count publishers : Nat) : List Nat :=
  (List.range publishers).flatMap (share count publishers)

/-- Categories take turns. -/
def category (i : Nat) : Category :=
  Category.all.getD (i % Category.all.length) .transaction

def preference (i : Nat) (user : String) : Option Preference :=
  if i % 10 = 0 then some (.ofChannels user [.email, .inApp]) else none

def request (t : Traffic) (i : Nat) (now : Timestamp) : Request :=
  let user := t.user i
  let n := Notification.create (t.id i) user (category i)
    ("Notification #" ++ toString i) ("Simulated " ++ (category i).name ++ " notification") now
  ⟨n, preference i user, none⟩

end Traffic

end Courier
