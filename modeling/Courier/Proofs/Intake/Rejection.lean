import Courier.Proofs.Intake.Effects
import Courier.Proofs.Intake.Keys
import Courier.Proofs.Metrics.Totals

/-! # What is left of a request that is not queued

A request can be turned away at five places. Nothing that was stored, kept or
queued before is touched at any of them; what was counted, and what the limiter
has forgotten, depends on how far the request got.
-/

namespace Courier.Intake

variable {s after : Intake} {r : Request} {now : Moment}

/-- Nothing was stored, no key was kept, and no consumer has noticed anything. -/
structure Spares (s after : Intake) : Prop where
  repository : after.repository = s.repository
  seen : after.seen = s.seen
  /-- Queues, dead letters, workers and numbers of every consumer. -/
  consumers : after.broker.consumers = s.broker.consumers
  topics : after.broker.topics = s.broker.topics

/-- Only a total has grown; the limiter was not asked. -/
structure OnlyCounts (s after : Intake) (counter : Counter) (n : Nat) : Prop where
  limiter : after.limiter = s.limiter
  metrics : s.broker.metrics.Grows after.broker.metrics counter n

/-- The limiter was asked for every channel of the request and refused all. -/
structure RefusesAll (s after : Intake) (r : Request) (now : Moment) : Prop where
  gains_nil : ∀ key, s.limiter.Gains after.limiter key now.instant []
  /-- It makes no difference to later decisions that it was asked. -/
  decisions : ∀ requests : List RateLimiter.Request,
    (requests.map RateLimiter.Request.now).Pairwise (· ≤ ·) →
      (∀ q ∈ requests, now.instant ≤ q.now) →
        after.limiter.decisions requests = s.limiter.decisions requests
  metrics : s.broker.metrics.Grows after.broker.metrics .rateLimited r.routed.length

/-- What a request that is not queued leaves behind, by its result. -/
def Leaves (s : Intake) (r : Request) (now : Moment) (x : Response) : Prop :=
  match x.result with
  | .error (.validation _) | .ok .noChannels => x.intake = s ∧ x.notification = r.notification
  | .ok .duplicate => s.OnlyCounts x.intake .duplicates 1 ∧ x.notification = r.notification
  | .ok .rateLimited => s.RefusesAll x.intake r now ∧ x.notification = r.notification
  | .error (.persistence _) =>
      s.broker.metrics.Grows x.intake.broker.metrics .rateLimited (s.refused r now).length
  | .error (.configuration _) | .ok (.queued _ _) => False

theorem spares_ask (s : Intake) (r : Request) (now : Moment) : s.Spares (s.ask r now).1 where
  repository := ask_repository s r now
  seen := ask_seen s r now
  consumers := by rw [ask_broker]
  topics := by rw [ask_broker]

theorem grows_ask (s : Intake) (r : Request) (now : Moment) :
    s.broker.metrics.Grows (s.ask r now).1.broker.metrics .rateLimited
      (s.refused r now).length := by
  have hrefusals : ∀ x ∈ (s.refused r now).map refusal, x.counter = .rateLimited := by
    intro x hx
    obtain ⟨c, -, rfl⟩ := List.mem_map.mp hx
    rfl
  rw [ask_broker, ← List.length_map refusal]
  exact s.broker.metrics.grows_recordAll hrefusals

theorem grows_duplicates (s : Intake) :
    s.broker.metrics.Grows (s.broker.record ⟨.duplicates, ""⟩).metrics .duplicates 1 := by
  have hduplicates : ∀ x ∈ [Measurement.mk .duplicates ""], x.counter = .duplicates := by
    intro x hx
    rw [List.mem_singleton.mp hx]
  exact s.broker.metrics.grows_recordAll hduplicates

/-- If no channel was admitted, every one was refused. -/
theorem refused_eq_routed (hnone : (s.ask r now).2 = []) : s.refused r now = r.routed := by
  rw [ask_snd] at hnone
  apply List.filter_eq_self.mpr
  intro c hc
  rw [Bool.not_eq_true']
  exact Bool.eq_false_iff.mpr (List.filter_eq_nil_iff.mp hnone c hc)

theorem sheds_ask (hnone : (s.ask r now).2 = []) :
    s.limiter.Sheds (s.ask r now).1.limiter now.instant where
  config := config_ask s r now
  window := window_ask s r now
  gains_nil := by
    intro key
    have hgains := gains_ask s r now key
    rw [hnone, if_neg] at hgains
    · exact hgains
    · exact fun hmem => List.not_mem_nil hmem.2

theorem refusesAll_ask (hnone : (s.ask r now).2 = []) :
    s.RefusesAll (s.ask r now).1 r now where
  gains_nil := (sheds_ask hnone).gains_nil
  decisions := fun _ hforward hlater => (sheds_ask hnone).decisions_eq hforward hlater
  metrics := by
    rw [← refused_eq_routed hnone]
    exact grows_ask s r now

/-- A request that is not queued leaves the repository, the keys and the
consumers alone, and otherwise only what its result tells. -/
theorem spares_and_leaves_of_not_queued (s : Intake) (r : Request) (now : Moment)
    (hrejected : isQueued (s.submit r now).result = false) :
    s.Spares (s.submit r now).intake ∧ s.Leaves r now (s.submit r now) := by
  have hhandling := handling_submit s r now
  generalize s.submit r now = response at hhandling hrejected
  cases hhandling with
  | invalid hinvalid =>
      obtain ⟨detail, rfl⟩ := Request.exists_detail_of_validate_eq_error hinvalid
      exact ⟨⟨rfl, rfl, rfl, rfl⟩, rfl, rfl⟩
  | duplicate => exact ⟨⟨rfl, rfl, rfl, rfl⟩, ⟨rfl, grows_duplicates s⟩, rfl⟩
  | noChannels => exact ⟨⟨rfl, rfl, rfl, rfl⟩, rfl, rfl⟩
  | rateLimited _ _ _ hnone => exact ⟨spares_ask s r now, refusesAll_ask hnone, rfl⟩
  | unsaved => exact ⟨spares_ask s r now, grows_ask s r now⟩
  | queued => cases hrejected

/-- One channel is refused, and the write for the others fails. -/
theorem spares_and_leaves_of_failed_write :
    let limit : RateLimit := { RateLimit.default with limit := 1 }
    let s := (fresh (Broker.empty .emptyTotals) (.withWindow limit (.ofSeconds 60))).run
      [.addConsumer "mailer" .default, .subscribe Channel.email.topic 0,
        .limit (.check "a:push" 0), .rejectWrites true]
    let r := Identity.request ⟨"a", .transaction, "paid"⟩ (.ofNat 1)
    let now : Moment := ⟨0, .newYear2024⟩
    (s.submit r now).result = .error (.persistence .rejectingWrites) ∧
      s.refused r now = [.push] ∧ isQueued (s.submit r now).result = false ∧
      s.Spares (s.submit r now).intake ∧ s.Leaves r now (s.submit r now) :=
  ⟨rfl, by decide, rfl, spares_and_leaves_of_not_queued _ _ _ rfl⟩

end Courier.Intake
