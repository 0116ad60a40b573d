import Courier.Proofs.Consumer.Course

/-! # The retry law

How often the handler is called with an event, how often it fails, when the
event waits and what its number of retries is: a law for each event of each
run, whatever other events, workers and drains do meanwhile.
-/

namespace Courier

open Consumer (Action)

namespace Journey

variable (j : Journey)

/-- How often the handler was called. -/
def calls : Nat :=
  j.past.count .called

/-- What came of the calls, in order. -/
def results : List Happening :=
  j.past.filter Happening.isResult

def waits : List Duration :=
  j.past.filterMap Happening.wait?

/-- The event is going to be put back once more. -/
def isRetrying (p : RetryPolicy) : Prop :=
  j.phase.isPausing = true ∨ j.phase = .handling ∧ p.next j.event.retries ≠ .deadLetter

/-- The law of retries, for one event. -/
structure RetryLaw (p : RetryPolicy) (j : Journey) : Prop where
  queued : j.phase = .queued → j.offered.retries.toNat + j.calls = j.event.retries.toNat
  tried : j.phase.isTried = true →
    j.offered.retries.toNat + j.calls = j.event.retries.toNat + 1
  bounded : j.event.retries.toNat ≤ max p.limit.toNat j.offered.retries.toNat
  increment : j.isRetrying p → j.event.again.retries.toNat = j.event.retries.toNat + 1
  deadLettered : j.phase = .buried ∨ j.phase = .settled .deadLettered →
    j.calls = p.limit.toNat - j.offered.retries.toNat + 1 ∧
      j.results = List.replicate (p.limit.toNat - j.offered.retries.toNat + 1) .failed ∧
      j.event.retries.toNat = max p.limit.toNat j.offered.retries.toNat
  delivered : j.phase = .settled .delivered →
    ∃ k ≤ p.limit.toNat - j.offered.retries.toNat, j.calls = k + 1 ∧
      j.results = List.replicate k .failed ++ [.settled .delivered]
  closing : j.past.Pairwise Happening.mayPrecede
  /-- With backoff, there is one wait before each retry. -/
  waited : ∀ b, p.backoff = some b → ∃ n, j.waits = RetryPolicy.waits b j.offered.retries n ∧
    (j.phase.isGivenUp = false →
      j.offered.retries.toNat + n = j.event.retries.toNat + if j.phase.isPausing then 1 else 0)
  unwaited : p.backoff = none → j.waits = []

theorem retryLaw_of_course {p : RetryPolicy} {j : Journey}
    (hcourse : Course p j.offered.retries j.phase j.event.retries j.past) : j.RetryLaw p where
  queued hphase := by
    rw [hphase] at hcourse
    exact hcourse.add_calls_of_queued
  tried htried := hcourse.add_calls_of_tried htried
  bounded := hcourse.bounded
  increment hretrying := by
    apply RetryPolicy.toNat_add_one (p := p)
    obtain hpausing | ⟨_, hnext⟩ := hretrying
    · exact hcourse.lt_limit_of_isPausing hpausing
    · exact UInt32.not_le.mp fun hlast => hnext (RetryPolicy.next_eq_deadLetter_iff.mpr hlast)
  deadLettered hphase := hcourse.exhausted hphase
  delivered hphase := by
    rw [hphase] at hcourse
    exact hcourse.delivered_after
  closing := hcourse.closing
  waited _ hbackoff := hcourse.filterMap_wait? hbackoff
  unwaited hbackoff := hcourse.filterMap_wait?_of_none hbackoff

end Journey

namespace Ledger

theorem course_run? {name : String} {config : ConsumerConfig} {actions : List Action} {l : Ledger}
    (hrun : (create name config).run? actions = some l) :
    ∀ j ∈ l.journeys, Course config.retry j.offered.retries j.phase j.event.retries j.past := by
  refine forall_journeys_run? hrun (create_located name config) (fun j hj => by cases hj) ?_ ?_
  · exact fun _ _ => .queued .start
  · intro j k news hj hadvance hoffered hpast
    rw [hoffered, hpast]
    exact hj.advance hadvance

/-- In every run of a consumer, each accepted event obeys the law of retries. -/
theorem retryLaw_of_run? (name : String) (config : ConsumerConfig) (actions : List Action)
    (c : Consumer) (hrun : (Consumer.create name config).run? actions = some c) :
    ∃ l, (create name config).run? actions = some l ∧ l.consumer = c ∧
      l.journeys.map Journey.offered = (Consumer.create name config).accepted actions ∧
      ∀ j ∈ l.journeys, c.view? j.event j.spot = some (j.phase, j.event) ∧
        j.RetryLaw config.retry := by
  obtain ⟨l, hl, rfl⟩ := exists_run? (l := create name config) hrun
  refine ⟨l, hl, rfl, offered_run? hl, fun j hj => ⟨?_, ?_⟩⟩
  · exact located_run? hl (create_located name config) j hj
  · exact Journey.retryLaw_of_course (course_run? hl j hj)

/-- An event offered with one retry is put back twice more and dead-lettered. -/
theorem retryLaw_of_limit_three :
    let backoff : Backoff := ⟨Duration.ofSeconds 1, Duration.ofSeconds 3⟩
    let config : ConsumerConfig := ⟨1, 1, 1, ⟨3, some backoff⟩⟩
    let actions : List Action :=
      [.start, .offer { (default : Event) with retries := 1 }, .take 0, .fail 0, .wake 0,
        .requeue 0, .take 0, .fail 0, .wake 0, .requeue 0, .take 0, .fail 0, .bury 0,
        .offer default]
    ∃ c, (Consumer.create "mail" config).run? actions = some c ∧ c.stats.handled = 3 ∧
      c.dlq.map Event.retries = [3] ∧
      ∃ l, (create "mail" config).run? actions = some l ∧ l.consumer = c ∧
        l.journeys.map Journey.offered = (Consumer.create "mail" config).accepted actions ∧
        ∀ j ∈ l.journeys, c.view? j.event j.spot = some (j.phase, j.event) ∧
          j.RetryLaw config.retry :=
  ⟨_, rfl, rfl, rfl, retryLaw_of_run? _ _ _ _ rfl⟩

end Ledger

end Courier
