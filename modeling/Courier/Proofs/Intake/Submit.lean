import Courier.Intake

/-! # The rules of the intake

`Handling` lists the ways a request can go, with what each needs and what comes
of it. No two of them are open to the same request, and every request goes one
of them, so that facts about requests go through the rules and never through
what the intake does step by step.
-/

namespace Courier

namespace Request

/-- The channels that the request is routed to. -/
def routed (r : Request) : List Channel :=
  resolveChannels r.notification r.preference

/-- The notification as it is stored and published. -/
def queuedAt (r : Request) (now : Moment) : Notification :=
  r.notification.withStatus .queued now.date

theorem validate_eq_ok_iff {r : Request} :
    r.validate = .ok () ↔
      Text.trim r.notification.user.toList ≠ [] ∧ Text.trim r.notification.title.toList ≠ [] := by
  unfold validate
  split
  next huser => simp [List.isEmpty_iff.mp huser]
  next huser =>
    rw [List.isEmpty_iff] at huser
    split
    next htitle => simp [List.isEmpty_iff.mp htitle]
    next htitle =>
      rw [List.isEmpty_iff] at htitle
      simp [huser, htitle]

theorem exists_detail_of_validate_eq_error {r : Request} {e : RequestError}
    (hinvalid : r.validate = .error e) : ∃ detail, e = .validation detail := by
  unfold validate at hinvalid
  split at hinvalid
  next => exact ⟨_, (Except.error.inj hinvalid).symm⟩
  next =>
    split at hinvalid
    next => exact ⟨_, (Except.error.inj hinvalid).symm⟩
    next => cases hinvalid

end Request

namespace Intake

/-- The limiter is asked for every channel of the request. -/
def ask (s : Intake) (r : Request) (now : Moment) : Intake × List Channel :=
  s.admitAll r.notification.user now.instant r.routed

/-- A request that was stored in this repository is remembered and published on
the channels that were admitted. -/
def release (s : Intake) (r : Request) (now : Moment) (repository : Repository) :
    Intake × PublishReport :=
  ({ (s.ask r now).1 with repository := repository }.remember r.key).publishAll (r.queuedAt now)
    (s.ask r now).2

section Fields

variable (s : Intake) (user : String) (now : Instant) (n : Notification)

@[simp]
theorem admitOne_repository (c : Channel) : (s.admitOne user c now).1.repository = s.repository := by
  unfold admitOne
  dsimp only
  split <;> rfl

@[simp]
theorem admitOne_seen (c : Channel) : (s.admitOne user c now).1.seen = s.seen := by
  unfold admitOne
  dsimp only
  split <;> rfl

@[simp]
theorem admitOne_limiter (c : Channel) :
    (s.admitOne user c now).1.limiter = (s.limiter.check (RateLimiter.keyFor user c) now).1 := by
  unfold admitOne
  dsimp only
  split <;> rfl

@[simp]
theorem admitOne_snd (c : Channel) :
    (s.admitOne user c now).2 = (s.limiter.check (RateLimiter.keyFor user c) now).2.isAllowed := by
  unfold admitOne
  dsimp only
  split
  next hallowed => exact hallowed.symm
  next hdenied => exact (Bool.eq_false_iff.mpr hdenied).symm

@[simp]
theorem admitAll_repository (channels : List Channel) :
    (s.admitAll user now channels).1.repository = s.repository := by
  induction channels generalizing s with
  | nil => rfl
  | cons c rest ih => exact (ih _).trans (admitOne_repository s user now c)

@[simp]
theorem admitAll_seen (channels : List Channel) :
    (s.admitAll user now channels).1.seen = s.seen := by
  induction channels generalizing s with
  | nil => rfl
  | cons c rest ih => exact (ih _).trans (admitOne_seen s user now c)

@[simp]
theorem publishAll_repository (channels : List Channel) :
    (s.publishAll n channels).1.repository = s.repository := by
  induction channels generalizing s with
  | nil => rfl
  | cons c rest ih => exact ih _

@[simp]
theorem publishAll_seen (channels : List Channel) :
    (s.publishAll n channels).1.seen = s.seen := by
  induction channels generalizing s with
  | nil => rfl
  | cons c rest ih => exact ih _

@[simp]
theorem publishAll_limiter (channels : List Channel) :
    (s.publishAll n channels).1.limiter = s.limiter := by
  induction channels generalizing s with
  | nil => rfl
  | cons c rest ih => exact ih _

@[simp]
theorem ask_repository (r : Request) (now : Moment) : (s.ask r now).1.repository = s.repository :=
  admitAll_repository ..

@[simp]
theorem ask_seen (r : Request) (now : Moment) : (s.ask r now).1.seen = s.seen :=
  admitAll_seen ..

@[simp]
theorem release_repository (r : Request) (now : Moment) (repository : Repository) :
    (s.release r now repository).1.repository = repository :=
  publishAll_repository ..

@[simp]
theorem release_seen (r : Request) (now : Moment) (repository : Repository) :
    (s.release r now repository).1.seen = (s.seen.store r.key).1 := by
  rw [release, publishAll_seen, remember, ask_seen]

@[simp]
theorem release_limiter (r : Request) (now : Moment) (repository : Repository) :
    (s.release r now repository).1.limiter = (s.ask r now).1.limiter :=
  publishAll_limiter ..

end Fields

/-- One rule for each way a request can go, in the order in which they are
tried. -/
inductive Handling (s : Intake) (r : Request) (now : Moment) : Response → Prop where
  | invalid {e : RequestError} (hinvalid : r.validate = .error e) :
      Handling s r now ⟨s, r.notification, .error e⟩
  | duplicate (hvalid : r.validate = .ok ()) (hseen : s.seen.contains r.key = true) :
      Handling s r now
        ⟨{ s with broker := s.broker.record ⟨.duplicates, ""⟩ }, r.notification, .ok .duplicate⟩
  | noChannels (hvalid : r.validate = .ok ()) (hnew : s.seen.contains r.key = false)
      (hnowhere : r.routed = []) :
      Handling s r now ⟨s, r.notification, .ok .noChannels⟩
  | rateLimited (hvalid : r.validate = .ok ()) (hnew : s.seen.contains r.key = false)
      (hrouted : r.routed ≠ []) (hnone : (s.ask r now).2 = []) :
      Handling s r now ⟨(s.ask r now).1, r.notification, .ok .rateLimited⟩
  | unsaved {e : StorageError} (hvalid : r.validate = .ok ())
      (hnew : s.seen.contains r.key = false) (hadmitted : (s.ask r now).2 ≠ [])
      (hfailed : s.repository.save (r.queuedAt now) = .error e) :
      Handling s r now ⟨(s.ask r now).1, r.queuedAt now, .error (.persistence e)⟩
  | queued {repository : Repository} (hvalid : r.validate = .ok ())
      (hnew : s.seen.contains r.key = false) (hadmitted : (s.ask r now).2 ≠ [])
      (hsaved : s.repository.save (r.queuedAt now) = .ok repository) :
      Handling s r now
        ⟨(s.release r now repository).1, r.queuedAt now,
          .ok (.queued (s.ask r now).2 (s.release r now repository).2)⟩

/-- Every request goes one of these ways. -/
theorem handling_submit (s : Intake) (r : Request) (now : Moment) :
    Handling s r now (s.submit r now) := by
  unfold submit
  dsimp only
  split
  next e hinvalid => exact .invalid hinvalid
  next hvalid =>
    split
    next hseen => exact .duplicate hvalid hseen
    next hunseen =>
      have hnew := Bool.eq_false_iff.mpr hunseen
      split
      next hnowhere => exact .noChannels hvalid hnew hnowhere
      next hrouted =>
        split
        next hnone => exact .rateLimited hvalid hnew hrouted hnone
        next hadmitted =>
          unfold enqueue
          have hrepository := s.ask_repository r now
          split
          next e hfailed => exact .unsaved hvalid hnew hadmitted (hrepository ▸ hfailed)
          next repository hsaved => exact .queued hvalid hnew hadmitted (hrepository ▸ hsaved)

/-! ## What a request changes -/

/-- The request was stored and published. -/
def isQueued : Except RequestError QueueOutcome → Bool
  | .ok (.queued _ _) => true
  | _ => false

theorem result_submit_eq_duplicate_iff {s : Intake} {r : Request} {now : Moment} :
    (s.submit r now).result = .ok .duplicate ↔
      r.validate = .ok () ∧ s.seen.contains r.key = true := by
  have hhandling := handling_submit s r now
  generalize s.submit r now = response at hhandling
  cases hhandling with
  | invalid hinvalid => simp [hinvalid]
  | duplicate hvalid hseen => simp [hvalid, hseen]
  | noChannels _ hnew | rateLimited _ hnew | unsaved _ hnew | queued _ hnew => simp [hnew]

/-- The key of a request that is queued is new, and is kept. No other request
is remembered. -/
theorem keys_submit (s : Intake) (r : Request) (now : Moment) :
    (s.submit r now).intake.seen.keys =
      if isQueued (s.submit r now).result then r.key :: s.seen.keys else s.seen.keys := by
  have hhandling := handling_submit s r now
  generalize s.submit r now = response at hhandling
  cases hhandling with
  | invalid | duplicate | noChannels => rfl
  | rateLimited | unsaved =>
      simp only [ask_seen]
      rfl
  | queued _ hnew =>
      simp only [release_seen]
      exact SeenKeys.keys_store_of_new hnew

/-- The repository gains a notification for each request that is queued, and
for no other. -/
theorem size_notifications_submit (s : Intake) (r : Request) (now : Moment) :
    (s.submit r now).intake.repository.notifications.size =
      s.repository.notifications.size + if isQueued (s.submit r now).result then 1 else 0 := by
  have hhandling := handling_submit s r now
  generalize s.submit r now = response at hhandling
  cases hhandling with
  | invalid | duplicate | noChannels => rfl
  | rateLimited | unsaved =>
      simp only [ask_repository]
      rfl
  | queued _ _ _ hsaved =>
      obtain ⟨_, hfree, rfl⟩ := Repository.save_eq_ok_iff.mp hsaved
      simp only [release_repository]
      rw [Table.size_insert, hfree]
      rfl

end Intake

end Courier
