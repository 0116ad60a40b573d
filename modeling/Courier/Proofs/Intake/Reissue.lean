import Courier.Proofs.Intake.Admission
import Courier.Proofs.Intake.Keys

/-! # Trying again after a failed write

A request whose notification could not be stored is not remembered, so that it
can be made again. The limiter, however, counts what it admitted, whether or
not anything came of it: at the same instant the second request goes to those
channels of the first that had room for two.
-/

namespace Courier

/-- The same request once more. Its notification may have another identifier. -/
structure Request.Reissues (again r : Request) : Prop where
  user : again.notification.user = r.notification.user
  category : again.notification.category = r.notification.category
  title : again.notification.title = r.notification.title
  preference : again.preference = r.preference
  ownKey : again.ownKey = r.ownKey

namespace Request.Reissues

variable {again r : Request}

theorem validate_eq (hreissues : again.Reissues r) : again.validate = r.validate := by
  rw [validate, validate, hreissues.user, hreissues.title]

theorem key_eq (hreissues : again.Reissues r) : again.key = r.key := by
  rw [key, key, hreissues.user, hreissues.category, hreissues.title, hreissues.ownKey]

theorem routed_eq (hreissues : again.Reissues r) : again.routed = r.routed := by
  unfold routed resolveChannels
  rw [hreissues.category, hreissues.preference]

end Request.Reissues

namespace Intake

/-- The request was queued on these channels, and limited if there are none. -/
def SentOn (result : Except RequestError QueueOutcome) (channels : List Channel) : Prop :=
  if channels = [] then result = .ok .rateLimited
  else ∃ report, result = .ok (.queued channels report)

variable {s : Intake} {r again : Request} {now later : Moment}

theorem routed_ne_nil_of_ask (hadmitted : (s.ask r now).2 ≠ []) : r.routed ≠ [] := by
  intro hnowhere
  apply hadmitted
  rw [ask_snd, hnowhere, List.filter_nil]

/-- A new request that can be stored goes to the channels that are admitted. -/
theorem sentOn_submit (hvalid : r.validate = .ok ()) (hnew : s.seen.contains r.key = false)
    (hrouted : r.routed ≠ []) (haccepts : s.repository.accepts r.notification.id = true) :
    SentOn (s.submit r now).result (s.ask r now).2 := by
  obtain ⟨saved, hsave⟩ : ∃ saved, s.repository.save (r.queuedAt now) = .ok saved :=
    Repository.exists_save_of_accepts haccepts
  have hhandling := handling_submit s r now
  generalize s.submit r now = response at hhandling
  cases hhandling with
  | invalid hinvalid =>
      rw [hvalid] at hinvalid
      cases hinvalid
  | duplicate _ hseen =>
      rw [hnew] at hseen
      cases hseen
  | noChannels _ _ hnowhere => exact absurd hnowhere hrouted
  | rateLimited _ _ _ hnone =>
      rw [SentOn, if_pos hnone]
  | unsaved _ _ _ hfailed =>
      rw [hsave] at hfailed
      cases hfailed
  | queued _ _ hadmitted =>
      rw [SentOn, if_neg hadmitted]
      exact ⟨_, rfl⟩

/-- What is left of a request that could not be stored are its admissions. -/
theorem of_persistence_error {e : StorageError}
    (hfailed : (s.submit r now).result = .error (.persistence e)) :
    r.validate = .ok () ∧ s.seen.contains r.key = false ∧ (s.ask r now).2 ≠ [] ∧
      (s.submit r now).intake = (s.ask r now).1 := by
  have hhandling := handling_submit s r now
  generalize s.submit r now = response at hhandling hfailed
  cases hhandling with
  | unsaved hvalid hnew hadmitted => exact ⟨hvalid, hnew, hadmitted, rfl⟩
  | invalid hinvalid =>
      obtain ⟨detail, rfl⟩ := Request.exists_detail_of_validate_eq_error hinvalid
      cases hfailed
  | duplicate | noChannels | rateLimited | queued => cases hfailed

/-- The limiter of another intake that has admitted the request admits the same
request at the same instant where there was room for two. -/
theorem ask_again {s' : Intake} (hkept : s.limiter.WellKept)
    (hlimiter : s'.limiter = (s.ask r now).1.limiter) (hreissues : again.Reissues r)
    (hinstant : later.instant = now.instant) :
    (s'.ask again later).2 = (s.ask r now).2.filter fun c =>
      s.limiter.hasRoomForTwo (RateLimiter.keyFor r.notification.user c) now.instant := by
  have hadmits : ∀ c ∈ r.routed,
      s'.limiter.admits (RateLimiter.keyFor r.notification.user c) now.instant =
        (s.limiter.hasRoomForTwo (RateLimiter.keyFor r.notification.user c) now.instant &&
          s.limiter.admits (RateLimiter.keyFor r.notification.user c) now.instant) := by
    intro c hc
    rw [hlimiter, (agreesAt_ask hc).admits, RateLimiter.admits_check hkept, Bool.and_comm]
  rw [ask_snd, ask_snd, hreissues.routed_eq, hreissues.user, hinstant,
    List.filter_congr hadmits, List.filter_filter]

/-- A request that failed because writes were rejected would have gone to some
channels. When it is made again, with writes accepted, it goes to those of them
that had room for two, and never fails or counts as a duplicate. -/
theorem exists_sentOn_reissue (hreachable : s.limiter.Reachable)
    (hfailed : (s.submit r now).result = .error (.persistence .rejectingWrites))
    (hreissues : again.Reissues r) (hinstant : later.instant = now.instant)
    (hfree : s.repository.notifications.contains again.notification.id = false) :
    ∃ channels, channels ≠ [] ∧
      (∀ repository : Repository, repository.accepts r.notification.id = true →
        SentOn ((s.withRepository repository).submit r now).result channels) ∧
      SentOn
        (((s.submit r now).intake.perform (.rejectWrites false)).submit again later).result
        (channels.filter fun c =>
          s.limiter.hasRoomForTwo (RateLimiter.keyFor r.notification.user c) now.instant) := by
  -- The key is still new, and only the limiter has changed.
  obtain ⟨hvalid, hnew, hadmitted, hafter⟩ := of_persistence_error hfailed
  have hrouted := routed_ne_nil_of_ask hadmitted
  refine ⟨(s.ask r now).2, hadmitted, ?_, ?_⟩
  · intro repository haccepts
    have hsame : ((s.withRepository repository).ask r now).2 = (s.ask r now).2 := by
      rw [ask_snd, ask_snd, withRepository]
    rw [← hsame]
    exact sentOn_submit hvalid hnew hrouted haccepts
  · rw [hafter]
    have hchannels : (((s.ask r now).1.perform (.rejectWrites false)).ask again later).2 = _ :=
      ask_again hreachable.wellKept rfl hreissues hinstant
    rw [← hchannels]
    apply sentOn_submit
    · rw [hreissues.validate_eq, hvalid]
    · rw [hreissues.key_eq, perform, withRepository, ask_seen, hnew]
    · rwa [hreissues.routed_eq]
    · rw [perform, withRepository, ask_repository, Repository.rejecting, Repository.accepts, hfree]
      rfl

theorem exists_sentOn_reissue_of_limit_two :
    let limit : RateLimit := { RateLimit.default with limit := 2 }
    let s := (fresh default (.withWindow limit (.ofSeconds 60))).run
      [.limit (.check "a:email" 0), .rejectWrites true]
    let r := Identity.request ⟨"a", .transaction, "paid"⟩ (.ofNat 1)
    let again := Identity.request ⟨"a", .transaction, "paid"⟩ (.ofNat 2)
    let now : Moment := ⟨0, .newYear2024⟩
    (s.submit r now).result = .error (.persistence .rejectingWrites) ∧
      ∃ channels, channels ≠ [] ∧
        (∀ repository : Repository, repository.accepts r.notification.id = true →
          SentOn ((s.withRepository repository).submit r now).result channels) ∧
        SentOn (((s.submit r now).intake.perform (.rejectWrites false)).submit again now).result
          (channels.filter fun c =>
            s.limiter.hasRoomForTwo (RateLimiter.keyFor r.notification.user c) now.instant) :=
  ⟨rfl, exists_sentOn_reissue (limiter_run_reachable ..) rfl ⟨rfl, rfl, rfl, rfl, rfl⟩ rfl rfl⟩

/-- A failed write can cost the only admission that there was. -/
theorem not_forall_queued_again :
    ¬∀ (s : Intake) (r again : Request) (now later : Moment), s.limiter.Reachable →
      (s.submit r now).result = .error (.persistence .rejectingWrites) →
        again.Reissues r → later.instant = now.instant →
          s.repository.notifications.contains again.notification.id = false →
            ∃ channels report,
              (((s.submit r now).intake.perform (.rejectWrites false)).submit again later).result =
                  .ok (.queued channels report) ∧
                ∀ repository : Repository, repository.accepts r.notification.id = true →
                  SentOn ((s.withRepository repository).submit r now).result channels := by
  intro hqueued
  obtain ⟨channels, report, hresult, -⟩ := hqueued
    ((fresh default (.withWindow { RateLimit.default with limit := 1 } (.ofSeconds 60))).run
      [.rejectWrites true])
    (Identity.request ⟨"a", .transaction, "paid"⟩ (.ofNat 1))
    (Identity.request ⟨"a", .transaction, "paid"⟩ (.ofNat 2))
    ⟨0, .newYear2024⟩ ⟨0, .newYear2024⟩ (limiter_run_reachable ..) rfl
    ⟨rfl, rfl, rfl, rfl, rfl⟩ rfl rfl
  -- The second request is limited.
  cases hresult

end Intake

end Courier
