import Courier.Proofs.Intake.Effects
import Courier.Proofs.Intake.Reissue
import Mathlib.Logic.Relation

/-! # Requests stride by stride

Requests that come at the same time share the intake and interrupt each other.
A stride is what a request does without being interrupted: it looks for its key,
asks the limiter for one channel, stores its notification, keeps its key, or
publishes on one channel. A request that nobody interrupts is handled as if it
were done in one go.
-/

namespace Courier

/-- How far a request has come. -/
inductive Progress where
  | arrived
  /-- The limiter is to be asked for the channels that are left. -/
  | asking (left admitted : List Channel)
  /-- The notification is stored, and the key is not kept yet. -/
  | stored (n : Notification) (channels : List Channel)
  /-- The key is kept, and there is something to publish on the channels that are
  left. -/
  | publishing (n : Notification) (channels left : List Channel) (report : PublishReport)
  | done (n : Notification) (result : Except RequestError QueueOutcome)

namespace Progress

/-- The notification as the request has stored it. -/
def record? : Progress → Option Notification
  | .stored n _ | .publishing n _ _ _ | .done n (.ok (.queued _ _)) => some n
  | _ => none

/-- The notification of a request that has kept its key. -/
def kept? : Progress → Option Notification
  | .publishing n _ _ _ | .done n (.ok (.queued _ _)) => some n
  | _ => none

/-- The channels that the request may still publish on, as far as it knows. -/
def pending : Progress → List Channel
  | .asking left admitted => admitted ++ left
  | .stored _ channels => channels
  | .publishing _ _ left _ => left
  | .arrived | .done _ _ => []

/-- The key is kept after the notification was stored. -/
theorem record?_of_kept? {p : Progress} {n : Notification} (hkept : p.kept? = some n) :
    p.record? = some n := by
  cases p with
  | arrived | asking | stored => cases hkept
  | publishing => exact hkept
  | done m result =>
      match result with
      | .ok (.queued _ _) => exact hkept
      | .ok .duplicate | .ok .noChannels | .ok .rateLimited | .error _ => cases hkept

end Progress

namespace PublishReport

theorem zero_add (a : PublishReport) : zero.add a = a := by
  simp only [add, zero, Nat.zero_add]

theorem add_assoc (a b c : PublishReport) : (a.add b).add c = a.add (b.add c) := by
  simp only [add, Nat.add_assoc]

end PublishReport

namespace Intake

/-- Looks at a request that has arrived, and whether its key is kept. -/
def receive (s : Intake) (r : Request) : Intake × Progress :=
  match r.validate with
  | .error e => (s, .done r.notification (.error e))
  | .ok () =>
      if s.seen.contains r.key then
        ({ s with broker := s.broker.record ⟨.duplicates, ""⟩ },
          .done r.notification (.ok .duplicate))
      else if r.routed = [] then (s, .done r.notification (.ok .noChannels))
      else (s, .asking r.routed [])

/-- Stores the notification if a channel was admitted. -/
def write (s : Intake) (r : Request) (now : Moment) (admitted : List Channel) :
    Intake × Progress :=
  if admitted = [] then (s, .done r.notification (.ok .rateLimited))
  else
    match s.repository.save (r.queuedAt now) with
    | .error e => (s, .done (r.queuedAt now) (.error (.persistence e)))
    | .ok repository => ({ s with repository := repository }, .stored (r.queuedAt now) admitted)

/-- What a request does next, without being interrupted. -/
def stride (s : Intake) (r : Request) (now : Moment) : Progress → Intake × Progress
  | .arrived => s.receive r
  | .asking (c :: rest) admitted =>
      let (s, allowed) := s.admitOne r.notification.user c now.instant
      (s, .asking rest (if allowed then admitted ++ [c] else admitted))
  | .asking [] admitted => s.write r now admitted
  | .stored n channels => (s.remember r.key, .publishing n channels channels .zero)
  | .publishing n channels (c :: rest) report =>
      let (s, first) := s.publish n c
      (s, .publishing n channels rest (report.add first))
  | .publishing n channels [] report => (s, .done n (.ok (.queued channels report)))
  | .done n result => (s, .done n result)

/-- One rule for each kind of stride. -/
inductive Stride (s : Intake) (r : Request) (now : Moment) : Progress → Intake × Progress → Prop
    where
  | invalid {e : RequestError} (hinvalid : r.validate = .error e) :
      Stride s r now .arrived (s, .done r.notification (.error e))
  | duplicate (hvalid : r.validate = .ok ()) (hseen : s.seen.contains r.key = true) :
      Stride s r now .arrived
        ({ s with broker := s.broker.record ⟨.duplicates, ""⟩ },
          .done r.notification (.ok .duplicate))
  | noChannels (hvalid : r.validate = .ok ()) (hnew : s.seen.contains r.key = false)
      (hnowhere : r.routed = []) :
      Stride s r now .arrived (s, .done r.notification (.ok .noChannels))
  | start (hvalid : r.validate = .ok ()) (hnew : s.seen.contains r.key = false)
      (hrouted : r.routed ≠ []) : Stride s r now .arrived (s, .asking r.routed [])
  | ask {c : Channel} {rest admitted : List Channel} :
      Stride s r now (.asking (c :: rest) admitted)
        ((s.admitOne r.notification.user c now.instant).1,
          .asking rest
            (if (s.admitOne r.notification.user c now.instant).2 then admitted ++ [c]
              else admitted))
  | rateLimited :
      Stride s r now (.asking [] []) (s, .done r.notification (.ok .rateLimited))
  | unsaved {e : StorageError} {admitted : List Channel} (hadmitted : admitted ≠ [])
      (hfailed : s.repository.save (r.queuedAt now) = .error e) :
      Stride s r now (.asking [] admitted)
        (s, .done (r.queuedAt now) (.error (.persistence e)))
  | save {repository : Repository} {admitted : List Channel} (hadmitted : admitted ≠ [])
      (hsaved : s.repository.save (r.queuedAt now) = .ok repository) :
      Stride s r now (.asking [] admitted)
        ({ s with repository := repository }, .stored (r.queuedAt now) admitted)
  | keep {n : Notification} {channels : List Channel} :
      Stride s r now (.stored n channels)
        (s.remember r.key, .publishing n channels channels .zero)
  | publish {n : Notification} {channels : List Channel} {c : Channel} {rest : List Channel}
      {report : PublishReport} :
      Stride s r now (.publishing n channels (c :: rest) report)
        ((s.publish n c).1, .publishing n channels rest (report.add (s.publish n c).2))
  | finish {n : Notification} {channels : List Channel} {report : PublishReport} :
      Stride s r now (.publishing n channels [] report)
        (s, .done n (.ok (.queued channels report)))
  | rest {n : Notification} {result : Except RequestError QueueOutcome} :
      Stride s r now (.done n result) (s, .done n result)

variable {s : Intake} {r : Request} {now : Moment} {p : Progress} {after : Intake × Progress}

theorem stride_stride (s : Intake) (r : Request) (now : Moment) (p : Progress) :
    Stride s r now p (s.stride r now p) := by
  match p with
  | .arrived =>
      rw [stride]
      unfold receive
      split
      next e hinvalid => exact .invalid hinvalid
      next hvalid =>
        split
        next hseen => exact .duplicate hvalid hseen
        next hunseen =>
          have hnew := Bool.eq_false_iff.mpr hunseen
          split
          next hnowhere => exact .noChannels hvalid hnew hnowhere
          next hrouted => exact .start hvalid hnew hrouted
  | .asking (c :: rest) admitted => exact .ask
  | .asking [] admitted =>
      rw [stride]
      unfold write
      split
      next hnone =>
        subst hnone
        exact .rateLimited
      next hadmitted =>
        split
        next e hfailed => exact .unsaved hadmitted hfailed
        next repository hsaved => exact .save hadmitted hsaved
  | .stored n channels => exact .keep
  | .publishing n channels (c :: rest) report => exact .publish
  | .publishing n channels [] report => exact .finish
  | .done n result => exact .rest

/-- There is only one stride that a request can make. -/
theorem Stride.eq (hstride : Stride s r now p after) : after = s.stride r now p := by
  cases hstride with
  | invalid hinvalid => simp [stride, receive, hinvalid]
  | duplicate hvalid hseen => simp [stride, receive, hvalid, hseen]
  | noChannels hvalid hnew hnowhere => simp [stride, receive, hvalid, hnew, hnowhere]
  | start hvalid hnew hrouted => simp [stride, receive, hvalid, hnew, hrouted]
  | unsaved hadmitted hfailed => simp [stride, write, hadmitted, hfailed]
  | save hadmitted hsaved => simp [stride, write, hadmitted, hsaved]
  | rateLimited | ask | keep | publish | finish | rest => rfl

/-! ## What a stride changes -/

/-- A stride stores the notification of its request, or changes neither the
repository nor what the request has stored. -/
theorem Stride.record (hstride : Stride s r now p after) :
    after.2.record? = p.record? ∧ after.1.repository = s.repository ∨
      p.record? = none ∧ after.2.record? = some (r.queuedAt now) ∧
        s.repository.save (r.queuedAt now) = .ok after.1.repository := by
  cases hstride with
  | save hadmitted hsaved => exact .inr ⟨rfl, rfl, hsaved⟩
  | ask => exact .inl ⟨rfl, admitOne_repository ..⟩
  | _ => exact .inl ⟨rfl, rfl⟩

theorem Stride.record?_eq_some (hstride : Stride s r now p after) {n : Notification}
    (hrecord : p.record? = some n) : after.2.record? = some n := by
  obtain ⟨hsame, -⟩ | ⟨hnone, -⟩ := hstride.record
  · exact hsame.trans hrecord
  · cases hnone.symm.trans hrecord

/-- A stride keeps the key of its request, and no other. -/
theorem Stride.kept (hstride : Stride s r now p after) :
    after.1.seen = s.seen ∧ (∀ n, p.kept? = some n → after.2.kept? = some n) ∨
      after.1.seen = (s.seen.store r.key).1 ∧ ∃ n, after.2.kept? = some n := by
  cases hstride with
  | keep => exact .inr ⟨rfl, _, rfl⟩
  | ask => exact .inl ⟨admitOne_seen .., fun _ hkept => hkept⟩
  | invalid | duplicate | noChannels | start | rateLimited | unsaved | save =>
      refine .inl ⟨rfl, ?_⟩
      intro n hkept
      cases hkept
  | publish | finish | rest => exact .inl ⟨rfl, fun _ hkept => hkept⟩

/-- A request comes to know of channels when it is received, and of no others
later. -/
theorem Stride.pending (hstride : Stride s r now p after) :
    after.2.pending.Sublist p.pending ∨ p = .arrived ∧ after.2.pending = r.routed := by
  cases hstride with
  | start => exact .inr ⟨rfl, rfl⟩
  | @ask c rest admitted =>
      left
      simp only [Progress.pending]
      split
      next =>
        rw [List.append_assoc]
        exact .refl _
      next => exact (List.sublist_cons_self c rest).append_left admitted
  | @save _ admitted =>
      left
      simp only [Progress.pending, List.append_nil]
      exact .refl _
  | keep => exact .inl (.refl _)
  | @publish _ _ c rest => exact .inl (List.sublist_cons_self c rest)
  | invalid | duplicate | noChannels | rateLimited | unsaved | finish | rest =>
      exact .inl (List.nil_sublist _)

/-- No stride changes a subscription. -/
theorem Stride.topics_eq (hstride : Stride s r now p after) :
    after.1.broker.topics = s.broker.topics := by
  cases hstride with
  | ask =>
      rw [admitOne_broker]
      split <;> rfl
  | publish => exact topics_publish ..
  | _ => rfl

/-! ## A request that is not interrupted -/

/-- The request gets from one point to another by itself, at one moment. -/
def Leads (r : Request) (now : Moment) : Intake × Progress → Intake × Progress → Prop :=
  Relation.ReflTransGen fun before after => after = before.1.stride r now before.2

theorem Stride.leads (hstride : Stride s r now p after) : Leads r now (s, p) after :=
  .single hstride.eq

theorem leads_asking (s : Intake) (r : Request) (now : Moment) (left admitted : List Channel) :
    Leads r now (s, .asking left admitted)
      ((s.admitAll r.notification.user now.instant left).1,
        .asking [] (admitted ++ (s.admitAll r.notification.user now.instant left).2)) := by
  induction left generalizing s admitted with
  | nil =>
      rw [admitAll, List.append_nil]
      exact .refl
  | cons c rest ih =>
      refine Stride.ask.leads.trans ((ih _ _).trans ?_)
      rw [admitAll]
      dsimp only
      cases (s.admitOne r.notification.user c now.instant).2
      · exact .refl
      · rw [if_pos rfl, if_pos rfl, List.append_assoc]
        exact .refl

theorem leads_publishing (s : Intake) (r : Request) (now : Moment) (n : Notification)
    (channels left : List Channel) (report : PublishReport) :
    Leads r now (s, .publishing n channels left report)
      ((s.publishAll n left).1,
        .done n (.ok (.queued channels (report.add (s.publishAll n left).2)))) := by
  induction left generalizing s report with
  | nil => exact Stride.finish.leads
  | cons c rest ih =>
      have hrest := ih (s.publish n c).1 (report.add (s.publish n c).2)
      rw [PublishReport.add_assoc] at hrest
      exact Stride.publish.leads.trans hrest

/-- What a request comes to that nobody interrupts. -/
theorem leads_submit (s : Intake) (r : Request) (now : Moment) :
    Leads r now (s, .arrived)
      ((s.submit r now).intake, .done (s.submit r now).notification (s.submit r now).result) := by
  have hhandling := handling_submit s r now
  generalize s.submit r now = response at hhandling
  cases hhandling with
  | invalid hinvalid => exact (Stride.invalid hinvalid).leads
  | duplicate hvalid hseen => exact (Stride.duplicate hvalid hseen).leads
  | noChannels hvalid hnew hnowhere => exact (Stride.noChannels hvalid hnew hnowhere).leads
  | rateLimited hvalid hnew hrouted hnone =>
      refine (Stride.start hvalid hnew hrouted).leads.trans ((leads_asking s r now _ []).trans ?_)
      rw [List.nil_append, ← ask, hnone]
      exact Stride.rateLimited.leads
  | unsaved hvalid hnew hadmitted hfailed =>
      refine (Stride.start hvalid hnew (routed_ne_nil_of_ask hadmitted)).leads.trans
        ((leads_asking s r now _ []).trans ?_)
      rw [List.nil_append, ← ask]
      rw [← ask_repository s r now] at hfailed
      exact (Stride.unsaved hadmitted hfailed).leads
  | @queued repository hvalid hnew hadmitted hsaved =>
      refine (Stride.start hvalid hnew (routed_ne_nil_of_ask hadmitted)).leads.trans
        ((leads_asking s r now _ []).trans ?_)
      rw [List.nil_append, ← ask]
      rw [← ask_repository s r now] at hsaved
      refine (Stride.save hadmitted hsaved).leads.trans (Stride.keep.leads.trans ?_)
      have hpublished := leads_publishing
        ({ (s.ask r now).1 with repository := repository }.remember r.key) r now (r.queuedAt now)
        (s.ask r now).2 (s.ask r now).2 .zero
      rw [PublishReport.zero_add] at hpublished
      exact hpublished

end Intake

end Courier
