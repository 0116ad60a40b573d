import Courier.Proofs.Intake.Run

/-! # The first queued request wins

An intake remembers the keys of the requests that it queued, of no others, and
for good. Whatever comes between two requests with one key, the second is a
duplicate exactly if the first was queued.
-/

namespace Courier.Intake

variable {s : Intake} {a : Action} {actions : List Action} {key : String}

/-! ## One action -/

theorem notifications_saveAttempt (r : Repository) (a : Attempt) :
    (Repository.store.save r a).1.notifications = r.notifications := by
  unfold Repository.store Repository.saveAttempt
  dsimp only
  split
  next => rfl
  next =>
    split
    next => rfl
    next => rfl

theorem notifications_updateAttempt (r : Repository) (a : Attempt) :
    (Repository.store.update r a).1.notifications = r.notifications := by
  unfold Repository.store Repository.updateAttempt
  dsimp only
  split
  next => rfl
  next =>
    split
    next => rfl
    next => rfl

/-- Only requests touch the keys and the notifications. -/
theorem perform_of_answer?_eq_none (hnone : s.answer? a = none) :
    (s.perform a).seen = s.seen ∧
      (s.perform a).repository.notifications = s.repository.notifications := by
  cases a with
  | submit => cases hnone
  | saveAttempt a => exact ⟨rfl, notifications_saveAttempt s.repository a⟩
  | updateAttempt a => exact ⟨rfl, notifications_updateAttempt s.repository a⟩
  | _ => exact ⟨rfl, rfl⟩

theorem eq_submit_of_answer?_eq_some {x : Answer} (hsome : s.answer? a = some x) :
    ∃ now, a = .submit x.request now ∧ x.result = (s.submit x.request now).result := by
  cases a with
  | submit r now =>
      obtain rfl := Option.some.inj hsome
      exact ⟨now, rfl, rfl⟩
  | _ => cases hsome

theorem keys_perform (s : Intake) (a : Action) :
    (s.perform a).seen.keys = (queuedKeys (s.answer? a).toList).reverse ++ s.seen.keys := by
  cases hanswer : s.answer? a with
  | none =>
      rw [(perform_of_answer?_eq_none hanswer).1]
      rfl
  | some x =>
      obtain ⟨now, rfl, hresult⟩ := eq_submit_of_answer?_eq_some hanswer
      rw [perform, keys_submit, ← hresult]
      split
      next hqueued => simp [queuedKeys, Answer.isQueued, hqueued]
      next hrejected => simp [queuedKeys, Answer.isQueued, hrejected]

theorem size_notifications_perform (s : Intake) (a : Action) :
    (s.perform a).repository.notifications.size =
      s.repository.notifications.size + (s.answer? a).toList.countP Answer.isQueued := by
  cases hanswer : s.answer? a with
  | none =>
      rw [Table.size, (perform_of_answer?_eq_none hanswer).2]
      rfl
  | some x =>
      obtain ⟨now, rfl, hresult⟩ := eq_submit_of_answer?_eq_some hanswer
      rw [perform, size_notifications_submit, ← hresult, Option.toList_some,
        List.countP_singleton, Answer.isQueued]

/-! ## Runs -/

theorem queuedKeys_append (first second : List Answer) :
    queuedKeys (first ++ second) = queuedKeys first ++ queuedKeys second := by
  rw [queuedKeys, List.filter_append, List.map_append, queuedKeys, queuedKeys]

theorem mem_queuedKeys {log : List Answer} :
    key ∈ queuedKeys log ↔ ∃ x ∈ log, x.request.key = key ∧ x.isQueued = true := by
  simp only [queuedKeys, List.mem_map, List.mem_filter]
  constructor
  · rintro ⟨x, ⟨hmem, hqueued⟩, hkey⟩
    exact ⟨x, hmem, hkey, hqueued⟩
  · rintro ⟨x, hmem, hkey, hqueued⟩
    exact ⟨x, ⟨hmem, hqueued⟩, hkey⟩

/-- The keys that are known after a run are those of the requests that were
queued in it, and those that were known before. -/
theorem keys_run (s : Intake) (actions : List Action) :
    (s.run actions).seen.keys = (queuedKeys (s.answers actions)).reverse ++ s.seen.keys := by
  induction actions generalizing s with
  | nil => rfl
  | cons a rest ih =>
      rw [run, ih, keys_perform, answers, queuedKeys_append, List.reverse_append,
        List.append_assoc]

theorem size_notifications_run (s : Intake) (actions : List Action) :
    (s.run actions).repository.notifications.size =
      s.repository.notifications.size + (s.answers actions).countP Answer.isQueued := by
  induction actions generalizing s with
  | nil => rfl
  | cons a rest ih =>
      rw [run, ih, size_notifications_perform, answers, List.countP_append, Nat.add_assoc]

/-- What an intake knows of the requests so far, and how it tells others from
them. -/
structure FirstQueuedWins (s : Intake) (log : List Answer) : Prop where
  /-- Of the valid requests just those are duplicates whose key was queued
  before. -/
  duplicate_iff : ∀ r now, r.validate = .ok () →
    ((s.submit r now).result = .ok .duplicate ↔
      ∃ x ∈ log, x.request.key = r.key ∧ x.isQueued = true)
  atMostOnce : (queuedKeys log).Nodup
  /-- A request that is not queued, for whatever reason, is not remembered. -/
  forgotten : ∀ r now, isQueued (s.submit r now).result = false →
    (s.submit r now).intake.seen.keys = s.seen.keys
  known : s.seen.size = log.countP Answer.isQueued
  stored : s.repository.notifications.size = log.countP Answer.isQueued

theorem firstQueuedWins_run (broker : Broker) (limiter : RateLimiter) (actions : List Action) :
    ((fresh broker limiter).run actions).FirstQueuedWins
      ((fresh broker limiter).answers actions) := by
  have hkeys := keys_run (fresh broker limiter) actions
  have hempty : (fresh broker limiter).seen.keys = [] := rfl
  rw [hempty, List.append_nil] at hkeys
  exact {
    duplicate_iff := by
      intro r now hvalid
      rw [result_submit_eq_duplicate_iff, SeenKeys.contains, List.contains_iff_mem, hkeys,
        List.mem_reverse, mem_queuedKeys]
      exact and_iff_right hvalid
    atMostOnce := by
      have hnodup := ((fresh broker limiter).run actions).seen.nodup
      rw [hkeys] at hnodup
      exact (List.reverse_perm _).nodup_iff.mp hnodup
    forgotten := by
      intro r now hrejected
      rw [keys_submit, hrejected]
      rfl
    known := by
      rw [SeenKeys.size, hkeys, List.length_reverse, queuedKeys, List.length_map,
        List.countP_eq_length_filter]
    stored := by
      rw [size_notifications_run]
      exact Nat.zero_add _ }

end Courier.Intake
