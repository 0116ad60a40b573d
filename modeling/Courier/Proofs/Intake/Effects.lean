import Courier.Proofs.Broker.Offers
import Courier.Proofs.Intake.Admission
import Courier.Proofs.RateLimiter.Forgetting

/-! # What asking and publishing change

Asking the limiter for the channels of a request changes the limiter and what
is counted of refusals; publishing changes the consumers and what they count.
Each key of the limiter and each consumer is described by itself.
-/

namespace Courier.Intake

variable {s : Intake} {user : String} {now : Instant} {n : Notification} {c : Channel}
  {channels : List Channel}

/-! ## Asking -/

/-- How a refusal is counted. -/
def refusal (c : Channel) : Measurement :=
  ⟨.rateLimited, c.name⟩

theorem admitOne_broker (s : Intake) (user : String) (c : Channel) (now : Instant) :
    (s.admitOne user c now).1.broker =
      if s.limiter.admits (RateLimiter.keyFor user c) now then s.broker
      else s.broker.record (refusal c) := by
  unfold admitOne RateLimiter.admits
  dsimp only
  split <;> rfl

/-- The refusals are counted, and nothing else happens to the broker. -/
theorem admitAll_broker (hnodup : channels.Nodup) :
    (s.admitAll user now channels).1.broker =
      { s.broker with
        metrics := s.broker.metrics.recordAll
          ((channels.filter fun c =>
            !s.limiter.admits (RateLimiter.keyFor user c) now).map refusal) } := by
  induction channels generalizing s with
  | nil => rfl
  | cons c rest ih =>
      obtain ⟨hnot, hrest⟩ := List.nodup_cons.mp hnodup
      -- The answer for one channel does not change the answers for the others.
      have hadmits : ∀ other ∈ rest,
          (!(s.admitOne user c now).1.limiter.admits (RateLimiter.keyFor user other) now) =
            !s.limiter.admits (RateLimiter.keyFor user other) now := by
        intro other hother
        have hne : other ≠ c := fun heq => hnot (heq ▸ hother)
        rw [(agreesAt_admitOne hne).admits now]
      rw [admitAll_cons_fst, ih hrest, List.filter_congr hadmits, admitOne_broker]
      cases hadmitted : s.limiter.admits (RateLimiter.keyFor user c) now <;>
        simp [hadmitted, Broker.record, Metrics.recordAll]

theorem agreesAt_admitAll_of_ne {key : String}
    (hne : ∀ c ∈ channels, key ≠ RateLimiter.keyFor user c) :
    (s.admitAll user now channels).1.limiter.AgreesAt s.limiter key := by
  induction channels generalizing s with
  | nil => exact .refl _ _
  | cons c rest ih =>
      rw [admitAll_cons_fst]
      refine (ih fun other hother => hne other (List.mem_cons_of_mem c hother)).trans ?_
      rw [admitOne_limiter]
      exact RateLimiter.agreesAt_check_of_ne (hne c List.mem_cons_self) now

/-- The keys of the channels that are admitted gain one admission each, and no
other key gains one. -/
theorem gains_admitAll (hnodup : channels.Nodup) (key : String) :
    s.limiter.Gains (s.admitAll user now channels).1.limiter key now
      (if s.limiter.config.enabled = true ∧
          key ∈ (s.admitAll user now channels).2.map (RateLimiter.keyFor user) then [now]
        else []) := by
  rw [admitAll_snd hnodup]
  by_cases hasked : ∃ c ∈ channels, key = RateLimiter.keyFor user c
  · obtain ⟨c, hc, rfl⟩ := hasked
    have hmem : RateLimiter.keyFor user c ∈
        (channels.filter fun c => s.limiter.admits (RateLimiter.keyFor user c) now).map
          (RateLimiter.keyFor user) ↔
        s.limiter.admits (RateLimiter.keyFor user c) now = true := by
      constructor
      · intro hmem
        obtain ⟨other, hother, heq⟩ := List.mem_map.mp hmem
        rw [← heq]
        exact (List.mem_filter.mp hother).2
      · intro hadmits
        exact List.mem_map_of_mem (List.mem_filter.mpr ⟨hc, hadmits⟩)
    obtain ⟨gone, kept, hrecorded, hgone, hrecorded'⟩ :=
      s.limiter.gains_check (RateLimiter.keyFor user c) now
    refine ⟨gone, kept, hrecorded, hgone, ?_⟩
    rw [(agreesAt_admitAll hnodup hc).recorded, hrecorded']
    simp only [hmem]
  -- Nobody has asked about the key.
  · have hne : ∀ c ∈ channels, key ≠ RateLimiter.keyFor user c :=
      fun c hc heq => hasked ⟨c, hc, heq⟩
    rw [if_neg]
    · exact RateLimiter.gains_nil_of_recorded_eq (agreesAt_admitAll_of_ne hne).recorded now
    · rintro ⟨-, hmem⟩
      obtain ⟨c, hc, heq⟩ := List.mem_map.mp hmem
      exact hne c (List.mem_filter.mp hc).1 heq.symm

/-- Only the refused channels of a request are counted. -/
def refused (s : Intake) (r : Request) (now : Moment) : List Channel :=
  r.routed.filter fun c =>
    !s.limiter.admits (RateLimiter.keyFor r.notification.user c) now.instant

theorem ask_broker (s : Intake) (r : Request) (now : Moment) :
    (s.ask r now).1.broker =
      { s.broker with
        metrics := s.broker.metrics.recordAll ((s.refused r now).map refusal) } :=
  admitAll_broker (nodup_resolveChannels r.notification r.preference)

theorem gains_ask (s : Intake) (r : Request) (now : Moment) (key : String) :
    s.limiter.Gains (s.ask r now).1.limiter key now.instant
      (if s.limiter.config.enabled = true ∧
          key ∈ (s.ask r now).2.map (RateLimiter.keyFor r.notification.user) then [now.instant]
        else []) :=
  gains_admitAll (nodup_resolveChannels r.notification r.preference) key

theorem config_ask (s : Intake) (r : Request) (now : Moment) :
    (s.ask r now).1.limiter.config = s.limiter.config := by
  apply limiter_admitAll (P := fun l => l.config = s.limiter.config)
  · exact fun l q hl => (l.serve_config q).trans hl
  · rfl

theorem window_ask (s : Intake) (r : Request) (now : Moment) :
    (s.ask r now).1.limiter.window = s.limiter.window := by
  apply limiter_admitAll (P := fun l => l.window = s.limiter.window)
  · exact fun l q hl => (l.serve_window q).trans hl
  · rfl

/-! ## Publishing -/

theorem publishAll_cons_fst (s : Intake) (n : Notification) (c : Channel) (rest : List Channel) :
    (s.publishAll n (c :: rest)).1 = ((s.publish n c).1.publishAll n rest).1 :=
  rfl

theorem topics_publish (s : Intake) (n : Notification) (c : Channel) :
    (s.publish n c).1.broker.topics = s.broker.topics :=
  s.broker.topics_offerAll (eventFor n c) (s.broker.subscribers c.topic)

theorem topics_publishAll (s : Intake) (n : Notification) (channels : List Channel) :
    (s.publishAll n channels).1.broker.topics = s.broker.topics := by
  induction channels generalizing s with
  | nil => rfl
  | cons c rest ih => exact (ih _).trans (topics_publish s n c)

theorem subscribers_publish (s : Intake) (n : Notification) (c : Channel) (t : Topic) :
    (s.publish n c).1.broker.subscribers t = s.broker.subscribers t :=
  Broker.subscribers_eq_of_topics_eq (topics_publish s n c) t

/-- A subscriber is offered the event of the channel once, and no other
consumer is offered anything. -/
theorem getElem?_consumers_publish (hdistinct : s.broker.Distinct) (n : Notification)
    (c : Channel) (i : Nat) :
    (s.publish n c).1.broker.consumers[i]? =
      s.broker.consumers[i]?.map (·.offerEach
        (if i ∈ s.broker.subscribers c.topic then [eventFor n c] else [])) := by
  have hconsumers :=
    s.broker.getElem?_consumers_offerAll (eventFor n c) (s.broker.subscribers c.topic) i
  rw [(hdistinct c.topic).count] at hconsumers
  rw [publish, Broker.publish, hconsumers]
  split <;> rfl

/-- Each consumer is offered one event for each of the channels whose topic it
is subscribed to, in the order of the channels. -/
theorem getElem?_consumers_publishAll (hdistinct : s.broker.Distinct) (n : Notification)
    (channels : List Channel) (i : Nat) :
    (s.publishAll n channels).1.broker.consumers[i]? =
      s.broker.consumers[i]?.map (·.offerEach
        ((channels.filter fun c => i ∈ s.broker.subscribers c.topic).map (eventFor n))) := by
  induction channels generalizing s with
  | nil => exact Option.map_id'.symm
  | cons c rest ih =>
      have hdistinct' := hdistinct.of_topics_eq (topics_publish s n c)
      rw [publishAll_cons_fst, ih hdistinct', getElem?_consumers_publish hdistinct,
        Option.map_map]
      congr 1
      funext k
      simp only [Function.comp_apply, subscribers_publish, ← Consumer.offerEach_append]
      by_cases hi : i ∈ s.broker.subscribers c.topic <;> simp [hi]

/-- Every subscriber of the topics counts, and took the event or refused it. -/
theorem report_publishAll (s : Intake) (n : Notification) (channels : List Channel) :
    (s.publishAll n channels).2.subscribers =
        (channels.flatMap fun c => s.broker.subscribers c.topic).length ∧
      (s.publishAll n channels).2.enqueued + (s.publishAll n channels).2.dropped =
        (s.publishAll n channels).2.subscribers := by
  induction channels generalizing s with
  | nil => exact ⟨rfl, rfl⟩
  | cons c rest ih =>
      have hreport : (s.publishAll n (c :: rest)).2 =
          (s.publish n c).2.add ((s.publish n c).1.publishAll n rest).2 := rfl
      obtain ⟨hrest, hshares⟩ := ih (s.publish n c).1
      obtain ⟨hfirst, hshares'⟩ :=
        s.broker.subscribers_offerAll (eventFor n c) (s.broker.subscribers c.topic)
      simp only [subscribers_publish] at hrest
      simp only [hreport, publish, Broker.publish, PublishReport.add, List.flatMap_cons,
        List.length_append] at hrest hshares ⊢
      omega

/-! ## A request that is stored -/

variable {r : Request} {now : Moment} {repository : Repository}

theorem subscribers_ask (s : Intake) (r : Request) (now : Moment) (t : Topic) :
    (s.ask r now).1.broker.subscribers t = s.broker.subscribers t :=
  Broker.subscribers_eq_of_topics_eq (by rw [ask_broker]) t

/-- What is published to is what was there before the request. -/
theorem getElem?_consumers_release (hdistinct : s.broker.Distinct) (i : Nat) :
    (s.release r now repository).1.broker.consumers[i]? =
      s.broker.consumers[i]?.map (·.offerEach
        (((s.ask r now).2.filter fun c => i ∈ s.broker.subscribers c.topic).map
          (eventFor (r.queuedAt now)))) := by
  have hdistinct' : (s.ask r now).1.broker.Distinct :=
    hdistinct.of_topics_eq (by rw [ask_broker])
  have hconsumers : (s.ask r now).1.broker.consumers = s.broker.consumers := by
    rw [ask_broker]
  have hoffers := getElem?_consumers_publishAll
    (s := { (s.ask r now).1 with repository := repository }.remember r.key) hdistinct'
    (r.queuedAt now) (s.ask r now).2 i
  simp only [remember, hconsumers, subscribers_ask] at hoffers
  exact hoffers

theorem report_release :
    (s.release r now repository).2.subscribers =
        ((s.ask r now).2.flatMap fun c => s.broker.subscribers c.topic).length ∧
      (s.release r now repository).2.enqueued + (s.release r now repository).2.dropped =
        (s.release r now repository).2.subscribers := by
  have hreport := report_publishAll
    ({ (s.ask r now).1 with repository := repository }.remember r.key) (r.queuedAt now)
    (s.ask r now).2
  simp only [remember, subscribers_ask] at hreport
  exact hreport

end Courier.Intake
