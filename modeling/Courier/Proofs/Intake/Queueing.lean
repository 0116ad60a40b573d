import Courier.Proofs.Intake.Effects
import Courier.Proofs.Intake.Reissue

/-! # What it means that a request is queued

A request is queued just if nothing speaks against it: it is valid and new, its
notification can be stored, and at least one of its channels is admitted. It
then changes the repository, the keys, the limiter and the consumers, each in
one way.
-/

namespace Courier

namespace Request

/-- The user has enabled the channel, or has enabled none. -/
def wants (r : Request) (c : Channel) : Bool :=
  match r.preference with
  | some p => p.channels.isEmpty || p.channels.contains c
  | none => true

theorem routed_eq_filter (r : Request) :
    r.routed = r.notification.category.defaultChannels.filter r.wants := by
  unfold routed resolveChannels wants
  dsimp only
  cases r.preference with
  | none => exact (List.filter_eq_self.mpr fun _ _ => rfl).symm
  | some p =>
      dsimp only
      split
      next hnone =>
        rw [hnone]
        exact (List.filter_eq_self.mpr fun _ _ => rfl).symm
      next hsome =>
        apply List.filter_congr
        intro c _
        rw [List.isEmpty_eq_false_iff.mpr hsome, Bool.false_or, Preference.allows]

end Request

namespace Intake

/-! ## Reachable states -/

/-- The intake came about from one with nothing in it, by requests and by
whatever else happens. -/
def Reachable (s : Intake) : Prop :=
  ∃ metrics config window actions,
    s = (fresh (Broker.empty metrics) (.withWindow config window)).run actions

variable {s : Intake} {r : Request} {now : Moment} {channels : List Channel}

theorem topics_ask (s : Intake) (r : Request) (now : Moment) :
    (s.ask r now).1.broker.topics = s.broker.topics := by
  rw [ask_broker]

theorem topics_release (s : Intake) (r : Request) (now : Moment) (repository : Repository) :
    (s.release r now repository).1.broker.topics = s.broker.topics :=
  (topics_publishAll ..).trans (topics_ask s r now)

/-- No request changes a subscription. -/
theorem topics_submit (s : Intake) (r : Request) (now : Moment) :
    (s.submit r now).intake.broker.topics = s.broker.topics := by
  have hhandling := handling_submit s r now
  generalize s.submit r now = response at hhandling
  cases hhandling with
  | invalid | duplicate | noChannels => rfl
  | rateLimited | unsaved => exact topics_ask s r now
  | queued => exact topics_release s r now _

theorem distinct_perform {a : Action} (hdistinct : s.broker.Distinct) :
    (s.perform a).broker.Distinct := by
  cases a with
  | submit r now => exact hdistinct.of_topics_eq (topics_submit s r now)
  | subscribe t c => exact hdistinct.subscribe t c
  | unsubscribeAll t => exact hdistinct.unsubscribeAll t
  | publish t e => exact hdistinct.of_topics_eq (s.broker.topics_offerAll e _)
  | act c a =>
      cases hact : s.broker.act? c a with
      | none =>
          rw [perform, hact]
          exact hdistinct
      | some b =>
          rw [perform, hact]
          exact hdistinct.of_topics_eq (Broker.topics_act? hact)
  | _ => exact hdistinct

theorem Reachable.distinct (hreachable : s.Reachable) : s.broker.Distinct := by
  obtain ⟨metrics, config, window, actions, rfl⟩ := hreachable
  apply run_induction (P := fun s => s.broker.Distinct)
  · exact fun _ => List.nodup_nil
  · exact fun _ _ hbefore => distinct_perform hbefore

/-! ## Queued requests -/

/-- The channels a request can go to: of the default channels of its category,
in their order, those that its user wants and the limiter admits. -/
def openChannels (s : Intake) (r : Request) (now : Moment) : List Channel :=
  r.notification.category.defaultChannels.filter fun c =>
    r.wants c &&
      (s.limiter.check (RateLimiter.keyFor r.notification.user c) now.instant).2.isAllowed

/-- Nothing speaks against queueing the request on these channels. -/
structure Queueable (s : Intake) (r : Request) (now : Moment) (channels : List Channel) :
    Prop where
  user : Text.trim r.notification.user.toList ≠ []
  title : Text.trim r.notification.title.toList ≠ []
  new : s.seen.contains r.key = false
  writable : s.repository.rejectsWrites = false
  unheld : s.repository.find? r.notification.id = none
  channels_eq : channels = s.openChannels r now
  nonempty : channels ≠ []

/-- All that changes when a request is queued on these channels. -/
structure Queues (s : Intake) (r : Request) (now : Moment) (channels : List Channel)
    (report : PublishReport) (after : Intake) : Prop where
  distinct : channels.Nodup
  stored : after.repository.find? r.notification.id =
    some { r.notification with status := .queued, updatedAt := now.date }
  others : ∀ id, id ≠ r.notification.id → after.repository.find? id = s.repository.find? id
  attempts : after.repository.attempts = s.repository.attempts
  writable : after.repository.rejectsWrites = false
  remembered : ∀ key, after.seen.contains key = true ↔
    key = r.key ∨ s.seen.contains key = true
  /-- The keys of the channels gain one admission each, if admissions are counted
  at all, and no other key gains one. -/
  admitted : ∀ key, s.limiter.Gains after.limiter key now.instant
    (if s.limiter.config.enabled = true ∧
        key ∈ channels.map (RateLimiter.keyFor r.notification.user) then [now.instant]
      else [])
  /-- Each consumer is offered one event for each of the channels whose topic it
  is subscribed to, with the record as its snapshot, and nothing else. -/
  offered : ∀ i, after.broker.consumers[i]? =
    s.broker.consumers[i]?.map fun k : Consumer => k.offerEach
      ((channels.filter fun c => i ∈ s.broker.subscribers c.topic).map fun c =>
        { id := r.notification.id.text ++ ":" ++ c.name
          payload := .notification
            ⟨{ r.notification with status := .queued, updatedAt := now.date }, [c]⟩
          retries := 0 })
  subscriptions : after.broker.topics = s.broker.topics
  subscribers : report.subscribers =
    (channels.flatMap fun c => s.broker.subscribers c.topic).length
  shares : report.enqueued + report.dropped = report.subscribers

theorem ask_snd_eq_openChannels (s : Intake) (r : Request) (now : Moment) :
    (s.ask r now).2 = s.openChannels r now := by
  rw [ask_snd, Request.routed_eq_filter, List.filter_filter, openChannels]
  apply List.filter_congr
  intro c _
  rw [Bool.and_comm, RateLimiter.admits]

theorem nodup_ask_snd (s : Intake) (r : Request) (now : Moment) : (s.ask r now).2.Nodup := by
  rw [ask_snd]
  exact (nodup_resolveChannels r.notification r.preference).filter _

theorem Queueable.exists_result (h : s.Queueable r now channels) :
    ∃ report, (s.submit r now).result = .ok (.queued channels report) := by
  have hask : (s.ask r now).2 = channels :=
    (ask_snd_eq_openChannels s r now).trans h.channels_eq.symm
  have haccepts : s.repository.accepts r.notification.id = true := by
    rw [Repository.accepts, h.writable, Table.contains_eq_isSome, ← Repository.find?, h.unheld]
    rfl
  have hadmitted : (s.ask r now).2 ≠ [] := hask ▸ h.nonempty
  have hvalid : r.validate = .ok () := Request.validate_eq_ok_iff.mpr ⟨h.user, h.title⟩
  have hsent : SentOn (s.submit r now).result (s.ask r now).2 :=
    sentOn_submit hvalid h.new (routed_ne_nil_of_ask hadmitted) haccepts
  rwa [SentOn, if_neg hadmitted, hask] at hsent

/-- A queued request has gone the way of queued requests. -/
theorem exists_release_of_queued {report : PublishReport}
    (hqueued : (s.submit r now).result = .ok (.queued channels report)) :
    ∃ repository, r.validate = .ok () ∧ s.seen.contains r.key = false ∧ channels ≠ [] ∧
      s.repository.save (r.queuedAt now) = .ok repository ∧ channels = (s.ask r now).2 ∧
      report = (s.release r now repository).2 ∧
      (s.submit r now).notification = r.queuedAt now ∧
      (s.submit r now).intake = (s.release r now repository).1 := by
  have hhandling := handling_submit s r now
  generalize s.submit r now = response at hhandling hqueued
  cases hhandling with
  | @queued repository hvalid hnew hadmitted hsaved =>
      cases hqueued
      exact ⟨repository, hvalid, hnew, hadmitted, hsaved, rfl, rfl, rfl, rfl⟩
  | invalid | duplicate | noChannels | rateLimited | unsaved => cases hqueued

theorem queueable_of_queued {report : PublishReport}
    (hqueued : (s.submit r now).result = .ok (.queued channels report)) :
    s.Queueable r now channels := by
  obtain ⟨repository, hvalid, hnew, hadmitted, hsaved, hchannels, -⟩ :=
    exists_release_of_queued hqueued
  obtain ⟨huser, htitle⟩ := Request.validate_eq_ok_iff.mp hvalid
  obtain ⟨hwritable, hfree, -⟩ := Repository.save_eq_ok_iff.mp hsaved
  exact {
    user := huser
    title := htitle
    new := hnew
    writable := hwritable
    unheld := by
      rw [Table.contains_eq_isSome, Option.isSome_eq_false_iff, Option.isNone_iff_eq_none] at hfree
      exact hfree
    channels_eq := hchannels.trans (ask_snd_eq_openChannels s r now)
    nonempty := hadmitted }

theorem queues_release (hdistinct : s.broker.Distinct) {repository : Repository}
    (hsaved : s.repository.save (r.queuedAt now) = .ok repository) :
    s.Queues r now (s.ask r now).2 (s.release r now repository).2
      (s.release r now repository).1 := by
  obtain ⟨hwritable, -, rfl⟩ := Repository.save_eq_ok_iff.mp hsaved
  exact {
    distinct := nodup_ask_snd s r now
    stored := by
      rw [release_repository, Repository.find?]
      exact Table.get?_insert_self ..
    others := by
      intro id hne
      rw [release_repository, Repository.find?, Table.get?_insert]
      exact if_neg hne
    attempts := by rw [release_repository]
    writable := by
      rw [release_repository]
      exact hwritable
    remembered := by
      intro key
      rw [release_seen, SeenKeys.contains_store]
    admitted := by
      intro key
      rw [release_limiter]
      exact gains_ask s r now key
    offered := getElem?_consumers_release hdistinct
    subscriptions := topics_release s r now _
    subscribers := report_release.1
    shares := report_release.2 }

/-- A request is queued on these channels exactly if nothing speaks against it.
What is published then was stored before, once and under the identifier of the
notification. -/
theorem queued_iff_of_reachable (hreachable : s.Reachable) (r : Request) (now : Moment)
    (channels : List Channel) :
    ((∃ report, (s.submit r now).result = .ok (.queued channels report)) ↔
        s.Queueable r now channels) ∧
      ∀ report, (s.submit r now).result = .ok (.queued channels report) →
        (s.submit r now).notification =
            { r.notification with status := .queued, updatedAt := now.date } ∧
          s.Queues r now channels report (s.submit r now).intake := by
  constructor
  · constructor
    · rintro ⟨report, hqueued⟩
      exact queueable_of_queued hqueued
    · exact Queueable.exists_result
  · intro report hqueued
    obtain ⟨repository, -, -, -, hsaved, hchannels, hreport, hnotification, hintake⟩ :=
      exists_release_of_queued hqueued
    rw [hnotification, hintake, hchannels, hreport]
    exact ⟨rfl, queues_release hreachable.distinct hsaved⟩

/-- One channel is over its limit; the others have a subscriber and none. -/
theorem queued_iff_of_one_refused :
    let limit : RateLimit := { RateLimit.default with limit := 1 }
    let s := (fresh (Broker.empty .emptyTotals) (.withWindow limit (.ofSeconds 60))).run
      [.addConsumer "mailer" .default, .subscribe Channel.email.topic 0, .limit (.check "a:push" 0)]
    let r := Identity.request ⟨"a", .transaction, "paid"⟩ (.ofNat 1)
    let now : Moment := ⟨0, .newYear2024⟩
    s.Reachable ∧
      (s.submit r now).result = .ok (.queued [.email, .inApp] ⟨1, 1, 0⟩) ∧
      s.Queueable r now [.email, .inApp] ∧
      s.Queues r now [.email, .inApp] ⟨1, 1, 0⟩ (s.submit r now).intake := by
  obtain ⟨hiff, heffects⟩ := queued_iff_of_reachable
    (s := (fresh (Broker.empty .emptyTotals)
      (.withWindow { RateLimit.default with limit := 1 } (.ofSeconds 60))).run
      [.addConsumer "mailer" .default, .subscribe Channel.email.topic 0, .limit (.check "a:push" 0)])
    ⟨_, _, _, _, rfl⟩ (Identity.request ⟨"a", .transaction, "paid"⟩ (.ofNat 1))
    ⟨0, .newYear2024⟩ [.email, .inApp]
  exact ⟨⟨_, _, _, _, rfl⟩, rfl, hiff.mp ⟨_, rfl⟩, (heffects _ rfl).2⟩

end Intake

end Courier
