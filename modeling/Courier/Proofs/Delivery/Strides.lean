import Courier.Delivery
import Mathlib.Logic.Relation

/-! # Deliveries stride by stride

Deliveries that run at the same time share the storage and interrupt each other.
A stride is what one of them does without being interrupted: it looks for the
record, saves a fresh one, calls the sender, or writes the outcome. Between two
strides the record that it has read may have become another.
-/

namespace Courier

namespace Delivery

/-- How far a delivery has come. -/
inductive Point where
  | arrived
  /-- There was no record, and a fresh one is to be saved. -/
  | creating
  /-- The try is counted in the record that was read. -/
  | sending (a : Attempt)
  /-- The sender has answered. -/
  | writing (a : Attempt) (answer : Except SendError Unit)
  | done (result : Except DeliveryError Unit)

namespace Point

def isDone : Point → Bool
  | .done _ => true
  | _ => false

/-- What the sender has answered, if it was called. -/
def answer? : Point → Option (Except SendError Unit)
  | .writing _ answer => some answer
  | .done (.ok ()) => some (.ok ())
  | .done (.error (.send e)) => some (.error e)
  | _ => none

theorem answer?_outcome (answer : Except SendError Unit) :
    (done (outcome answer)).answer? = some answer := by
  cases answer <;> rfl

end Point

variable {σ τ : Type}

/-- What a delivery does about the record that was looked for. -/
def receive (id : NotificationId) (c : Channel) (now : Timestamp) :
    Except StorageError (Option Attempt) → Point
  | .ok (some a) => .sending (a.increment now)
  | .ok none => .creating
  | .error _ => .sending ((Attempt.fresh id c).increment now)

/-- What a delivery does next, without being interrupted. -/
def stride (store : AttemptStore σ) (send : τ → Notification → τ × Except SendError Unit)
    (c : Channel) (now : Timestamp) (e : Event) (s : σ) (t : τ) : Point → σ × τ × Point
  | .arrived =>
      if isRouted e c then
        (s, t, receive e.routed.notification.id c now (store.find s e.routed.notification.id c))
      else (s, t, .done (.error (.notRouted e c)))
  | .creating =>
      let a := Attempt.fresh e.routed.notification.id c
      ((store.save s a).1, t, .sending (a.increment now))
  | .sending a =>
      let (t, answer) := send t e.routed.notification
      (s, t, .writing a answer)
  | .writing a answer => (finish store s a answer, t, .done (outcome answer))
  | .done result => (s, t, .done result)

section Rules

variable (store : AttemptStore σ) (send : τ → Notification → τ × Except SendError Unit)
  (c : Channel) (now : Timestamp) (e : Event) (s : σ) (t : τ)

/-- One rule for each kind of stride. -/
inductive Stride : Point → σ × τ × Point → Prop where
  | refuse (hunrouted : isRouted e c = false) :
      Stride .arrived (s, t, .done (.error (.notRouted e c)))
  | load {a : Attempt} (hrouted : isRouted e c = true)
      (hfound : store.find s e.routed.notification.id c = .ok (some a)) :
      Stride .arrived (s, t, .sending (a.increment now))
  | miss (hrouted : isRouted e c = true)
      (hnone : store.find s e.routed.notification.id c = .ok none) :
      Stride .arrived (s, t, .creating)
  | fallBack {cause : StorageError} (hrouted : isRouted e c = true)
      (hfailed : store.find s e.routed.notification.id c = .error cause) :
      Stride .arrived (s, t, .sending ((Attempt.fresh e.routed.notification.id c).increment now))
  | create :
      Stride .creating
        ((store.save s (.fresh e.routed.notification.id c)).1, t,
          .sending ((Attempt.fresh e.routed.notification.id c).increment now))
  | send {a : Attempt} :
      Stride (.sending a)
        (s, (send t e.routed.notification).1, .writing a (send t e.routed.notification).2)
  | write {a : Attempt} {answer : Except SendError Unit} :
      Stride (.writing a answer) (finish store s a answer, t, .done (outcome answer))
  | rest {result : Except DeliveryError Unit} : Stride (.done result) (s, t, .done result)

end Rules

variable {store : AttemptStore σ} {send : τ → Notification → τ × Except SendError Unit}
  {c : Channel} {now : Timestamp} {e : Event} {s : σ} {t : τ} {p : Point} {after : σ × τ × Point}

theorem stride_stride (store : AttemptStore σ)
    (send : τ → Notification → τ × Except SendError Unit) (c : Channel) (now : Timestamp)
    (e : Event) (s : σ) (t : τ) (p : Point) :
    Stride store send c now e s t p (stride store send c now e s t p) := by
  cases p with
  | arrived =>
      rw [stride]
      split
      next hrouted =>
        cases hfind : store.find s e.routed.notification.id c with
        | ok found =>
            cases found with
            | some a => exact .load hrouted hfind
            | none => exact .miss hrouted hfind
        | error cause => exact .fallBack hrouted hfind
      next hunrouted => exact .refuse (Bool.eq_false_iff.mpr hunrouted)
  | creating => exact .create
  | sending a => exact .send
  | writing a answer => exact .write
  | done result => exact .rest

/-- There is only one stride that a delivery can make. -/
theorem Stride.eq (hstride : Stride store send c now e s t p after) :
    after = stride store send c now e s t p := by
  cases hstride with
  | refuse hunrouted => simp [stride, hunrouted]
  | load hrouted hfound => simp [stride, receive, hrouted, hfound]
  | miss hrouted hnone => simp [stride, receive, hrouted, hnone]
  | fallBack hrouted hfailed => simp [stride, receive, hrouted, hfailed]
  | create | send | write | rest => rfl

/-! ## A delivery that is not interrupted -/

/-- The delivery gets from one point to another by itself, at one moment. -/
def Leads (store : AttemptStore σ) (send : τ → Notification → τ × Except SendError Unit)
    (c : Channel) (now : Timestamp) (e : Event) : σ × τ × Point → σ × τ × Point → Prop :=
  Relation.ReflTransGen fun before after =>
    after = stride store send c now e before.1 before.2.1 before.2.2

theorem Stride.leads (hstride : Stride store send c now e s t p after) :
    Leads store send c now e (s, t, p) after :=
  .single hstride.eq

/-- Once the try is counted, the sender is called and its answer is written. -/
theorem leads_sending (a : Attempt) :
    Leads store send c now e (s, t, .sending a)
      (finish store s a (send t e.routed.notification).2, (send t e.routed.notification).1,
        .done (outcome (send t e.routed.notification).2)) :=
  Stride.send.leads.trans Stride.write.leads

/-- What a delivery comes to that nobody interrupts. -/
theorem leads_handle (store : AttemptStore σ)
    (send : τ → Notification → τ × Except SendError Unit) (c : Channel) (now : Timestamp)
    (e : Event) (s : σ) (t : τ) :
    Leads store send c now e (s, t, .arrived)
      ((handle store send c now e s t).1, (handle store send c now e s t).2.1,
        .done (handle store send c now e s t).2.2) := by
  cases hrouted : isRouted e c with
  | false =>
      rw [handle, if_neg (Bool.eq_false_iff.mp hrouted)]
      exact (Stride.refuse hrouted).leads
  | true =>
      rw [handle, if_pos hrouted, start, AttemptStore.load]
      cases hfind : store.find s e.routed.notification.id c with
      | ok found =>
          cases found with
          | some a => exact (Stride.load hrouted hfind).leads.trans (leads_sending _)
          | none =>
              exact (Stride.miss hrouted hfind).leads.trans
                (Stride.create.leads.trans (leads_sending _))
      | error cause => exact (Stride.fallBack hrouted hfind).leads.trans (leads_sending _)

end Delivery

end Courier
