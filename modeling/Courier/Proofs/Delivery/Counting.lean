import Courier.Proofs.Delivery.Records
import Courier.Proofs.Delivery.Strides

/-! # What a stride makes of the count

A delivery reads how many tries were counted before, and writes back one more.
Both numbers are followed beside the record, which itself starts again from zero
after the last word of 32 bits.
-/

namespace Courier

namespace Delivery

namespace Point

/-- The delivery has called the sender. -/
def hasSent (p : Point) : Bool :=
  p.answer?.isSome

theorem hasSent_outcome (answer : Except SendError Unit) :
    (done (outcome answer)).hasSent = true := by
  rw [hasSent, answer?_outcome]
  rfl

/-- The delivery has called the sender and has written the outcome. -/
def hasWritten (p : Point) : Bool :=
  p.isDone && p.hasSent

/-- The delivery is about to call the sender. -/
def isSending : Point → Bool
  | .sending _ => true
  | _ => false

/-- The delivery has found a record or has saved one. -/
def hasRecord (p : Point) : Bool :=
  p.isSending || p.hasSent

end Point

/-- The delivery writes the record of this notification and channel, and counts
one try more than it has read. -/
def Point.Counts (id : NotificationId) (c : Channel) (seen : Nat) : Point → Prop
  | .creating => seen = 0
  | .sending a | .writing a _ => a.key = (id, c) ∧ a.count = UInt32.ofNat (seen + 1)
  | .arrived | .done _ => True

/-- What the delivery has read, and what the record counts, after its next
stride. -/
def account (counted seen : Nat) : Point → Nat × Nat
  | .arrived => (counted, counted)
  | .writing _ _ => (seen, seen + 1)
  | _ => (seen, counted)

/-- What is stored for this notification and channel, where `counted` tries were
counted and some delivery may know that there is a record. -/
structure Recorded (id : NotificationId) (c : Channel) (found : Option Attempt) (counted : Nat)
    (known : Bool) : Prop where
  known : found.isSome = known
  none : found = none → counted = 0
  some : ∀ a, found = some a → a.key = (id, c) ∧ a.count = UInt32.ofNat counted

variable {τ : Type} {send : τ → Notification → τ × Except SendError Unit} {t : τ}
  {r : Repository} {id : NotificationId} {c : Channel} {now : Timestamp} {e : Event} {p : Point}
  {after : Repository × τ × Point} {counted seen : Nat} {known : Bool}

theorem ofNat_add_one (n : Nat) : UInt32.ofNat n + 1 = UInt32.ofNat (n + 1) :=
  (UInt32.ofNat_add n 1).symm

/-- A stride counts one try more than was read, or leaves the count as it is. -/
theorem recorded_stride (hstride : Stride Repository.store send c now e r t p after)
    (haccepts : r.rejectsWrites = false) (hsame : e.routed.notification.id = id)
    (hrecorded : Recorded id c (r.findAttempt? id c) counted (p.hasRecord || known))
    (hcounts : p.Counts id c seen) :
    after.1.rejectsWrites = false ∧
      Recorded id c (after.1.findAttempt? id c) (account counted seen p).2
        (after.2.2.hasRecord || known) ∧
      after.2.2.Counts id c (account counted seen p).1 := by
  subst hsame
  cases hstride with
  | refuse | rest => exact ⟨haccepts, hrecorded, trivial⟩
  | @load a hrouted hfound =>
      have hfound : r.findAttempt? e.routed.notification.id c = some a := Except.ok.inj hfound
      obtain ⟨hkey, hcount⟩ := hrecorded.some a hfound
      refine ⟨haccepts, ⟨?_, hrecorded.none, hrecorded.some⟩, hkey, ?_⟩
      · rw [hfound]
        rfl
      · exact (congrArg (· + 1) hcount).trans (ofNat_add_one counted)
  | miss hrouted hnone =>
      have hnone : r.findAttempt? e.routed.notification.id c = none := Except.ok.inj hnone
      exact ⟨haccepts, hrecorded, hrecorded.none hnone⟩
  | fallBack hrouted hfailed => cases hfailed
  | create =>
      obtain rfl : seen = 0 := hcounts
      refine ⟨Repository.rejectsWrites_save.trans haccepts, ?_, rfl, rfl⟩
      have hkey : (Attempt.fresh e.routed.notification.id c).key =
          (e.routed.notification.id, c) := rfl
      rw [Repository.findAttempt?_save_self haccepts hkey]
      refine ⟨rfl, nofun, ?_⟩
      intro a hfound
      obtain rfl := Option.some.inj hfound
      cases hfind : r.findAttempt? e.routed.notification.id c with
      | none =>
          have hzero := hrecorded.none hfind
          subst hzero
          exact ⟨rfl, rfl⟩
      | some b => exact hrecorded.some b hfind
  | send => exact ⟨haccepts, hrecorded, hcounts⟩
  | @write a answer =>
      obtain ⟨hkey, hcount⟩ := hcounts
      have hsome : (r.findAttempt? e.routed.notification.id c).isSome = true := hrecorded.known
      obtain ⟨b, hfind⟩ := Option.isSome_iff_exists.mp hsome
      refine ⟨Repository.rejectsWrites_update.trans haccepts, ?_, trivial⟩
      have hkey' : (a.withStatus (statusOf answer)).key = (e.routed.notification.id, c) := hkey
      rw [finish, Repository.findAttempt?_update_self haccepts hkey', hfind, Option.map_some]
      refine ⟨?_, nofun, ?_⟩
      · simp [Point.hasRecord, Point.hasSent_outcome]
      · intro written hwritten
        obtain rfl := Option.some.inj hwritten
        exact ⟨hkey', hcount⟩

/-- A stride writes no record but that of its own notification. -/
theorem findAttempt?_stride (hstride : Stride Repository.store send c now e r t p after)
    (haccepts : r.rejectsWrites = false) (hcounts : p.Counts e.routed.notification.id c seen)
    (hother : id ≠ e.routed.notification.id) :
    after.1.findAttempt? id c = r.findAttempt? id c := by
  have hne (a : Attempt) (hkey : a.key = (e.routed.notification.id, c)) : (id, c) ≠ a.key := by
    rw [hkey]
    exact fun heq => hother (congrArg Prod.fst heq)
  cases hstride with
  | refuse | load | miss | fallBack | send | rest => rfl
  | create => rw [Repository.findAttempt?_save haccepts, if_neg (hne _ rfl)]
  | @write a answer =>
      have hkey : (a.withStatus (statusOf answer)).key = (e.routed.notification.id, c) := hcounts.1
      rw [finish, Repository.findAttempt?_update haccepts, if_neg (hne _ hkey)]

end Delivery

end Courier
