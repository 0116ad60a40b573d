import Courier.Proofs.RateLimiter.History

/-! # The bound on every window

A check looks only at the window that ends with it. As it counts all admissions
there, no window anywhere in a run has more of them than the limit.
-/

namespace Courier

namespace RateLimiter

/-- Every half-open interval of this length has at most `limit` of the instants. -/
def Spaced (length limit : Nat) (instants : List Instant) : Prop :=
  ∀ t : Instant, instants.countP (fun a => t ≤ a ∧ a < t + length) ≤ limit

variable {l : RateLimiter} {key : String} {past : List Instant} {now a : Instant}

theorem countP_admissionsOf (key : String) (p : Instant → Bool) (log : List Decision) :
    (admissionsOf key log).countP p =
      log.countP fun d => d.key = key ∧ d.answer.isAllowed = true ∧ p d.now := by
  rw [admissionsOf, List.countP_filterMap]
  apply List.countP_congr
  intro d _
  by_cases hadmitted : d.key = key ∧ d.answer.isAllowed = true
  · simp [Decision.admission?, hadmitted]
  · rw [Decision.admission?, if_neg hadmitted]
    simp [← and_assoc, hadmitted]

/-- What is not after `now`, and within one window with it, is live. -/
theorem isLive_of_within {t : Instant} (hfrom : t ≤ a) (hle : a ≤ now)
    (huntil : now < t + l.window.nanos) : l.isLive now a = true := by
  rw [isLive_iff, Int.toNat_lt (Int.sub_nonneg_of_le hle)]
  calc
    now - a ≤ now - t := Int.sub_le_sub_left hfrom now
    _ < l.window.nanos := Int.sub_left_lt_of_lt_add huntil

theorem countP_within_le {t : Instant} (hpast : ∀ a ∈ past, a ≤ now)
    (huntil : now < t + l.window.nanos) :
    past.countP (fun a => t ≤ a ∧ a < t + l.window.nanos) ≤
      (past.filter (l.isLive now)).length := by
  rw [← List.countP_eq_length_filter]
  apply List.countP_mono_left
  intro a ha hwithin
  exact isLive_of_within (of_decide_eq_true hwithin).1 (hpast a ha) huntil

namespace Remembers

/-- Only a key with fewer live admissions than the limit is admitted. -/
theorem length_filter_lt (henabled : l.config.enabled = true) (hbounded : l.Bounded) {r : Request}
    (h : Remembers l key past r.now) (hadmission : l.admission? key r = some a) :
    (past.filter (l.isLive r.now)).length < l.config.limit.toNat := by
  cases r with
  | check other now =>
      by_cases hkey : key = other
      · subst hkey
        have hnow : Remembers l key past now := h
        have hle := hbounded.length_prune_le now key
        rw [admission?_check_self, hnow.answer_check henabled] at hadmission
        rw [hnow.prune_recorded] at hle
        split at hadmission
        next hallowed => exact (isAllowed_answer_iff hle).mp hallowed
        next => cases hadmission
      · rw [admission?_check_of_ne hkey] at hadmission
        cases hadmission
  | cleanup => cases hadmission

theorem spaced (henabled : l.config.enabled = true) (hbounded : l.Bounded) {r : Request}
    (h : Remembers l key past r.now) (hspaced : Spaced l.window.nanos l.config.limit.toNat past) :
    Spaced l.window.nanos l.config.limit.toNat (past ++ (l.admission? key r).toList) := by
  cases hadmission : l.admission? key r with
  | none => rwa [Option.toList_none, List.append_nil]
  | some a =>
      have hroom := h.length_filter_lt henabled hbounded hadmission
      obtain rfl := now_of_admission? hadmission
      intro t
      rw [Option.toList_some, List.countP_append, List.countP_singleton]
      split
      next hwithin =>
        -- What else lies in an interval with the new admission is live now.
        have hlive := countP_within_le h.le_now (of_decide_eq_true hwithin).2
        omega
      next => exact hspaced t

end Remembers

/-- Admissions stay spaced as requests come in; `past` are those so far. -/
theorem spaced_decisions {requests : List Request} (henabled : l.config.enabled = true)
    (hbounded : l.Bounded) (hforward : (requests.map Request.now).Pairwise (· ≤ ·))
    (h : ∀ r ∈ requests, Remembers l key past r.now)
    (hspaced : Spaced l.window.nanos l.config.limit.toNat past) :
    Spaced l.window.nanos l.config.limit.toNat
      (past ++ admissionsOf key (l.decisions requests)) := by
  induction requests generalizing l past with
  | nil => rwa [decisions, admissionsOf, List.filterMap_nil, List.append_nil]
  | cons r rest ih =>
      obtain ⟨hnext, hrest⟩ := List.pairwise_cons.mp hforward
      have hremembers := h r List.mem_cons_self
      have hspaced' := hremembers.spaced henabled hbounded hspaced
      rw [admissionsOf_decisions_cons, ← List.append_assoc]
      rw [← serve_window l r, ← serve_config l r] at hspaced' ⊢
      refine ih ?_ (hbounded.serve henabled r) hrest ?_ hspaced'
      · rwa [serve_config]
      · intro later hlater
        exact (hremembers.serve henabled).mono (hnext _ (List.mem_map_of_mem hlater))

/-- As long as the clock does not run backwards, an enabled limiter admits a key
at most `limit` times in any window, wherever the window starts. -/
theorem countP_allowed_le_limit (config : RateLimit) (window : Duration) (requests : List Request)
    (henabled : config.enabled = true)
    (hforward : (requests.map Request.now).Pairwise (· ≤ ·)) :
    let log := (withWindow config window).decisions requests
    let length : Nat := if window.isZero then 1000000000 else window.nanos
    log.map Decision.request = requests.filter Request.isCheck ∧
      ∀ (key : String) (t : Instant),
        log.countP (fun d => d.key = key ∧ d.answer.isAllowed ∧ t ≤ d.now ∧ d.now < t + length) ≤
          config.limit.toNat := by
  intro log length
  refine ⟨map_request_decisions _ requests, ?_⟩
  intro key t
  have hlength : (withWindow config window).window.nanos = length := by
    simp only [withWindow, length]
    split <;> rfl
  have hspaced : Spaced _ config.limit.toNat ([] ++ admissionsOf key log) :=
    spaced_decisions henabled (withWindow_bounded config window) hforward
      (fun r _ => Remembers.withWindow config window key r.now) (fun _ => Nat.zero_le _)
  have hcount := hspaced t
  rw [hlength, List.nil_append, countP_admissionsOf] at hcount
  simp only [decide_eq_true_eq] at hcount
  exact hcount

/-- Two per window of one second, which a window of zero is raised to. The
third check is refused; a cleanup and another key come between. -/
theorem countP_allowed_le_two :
    let config : RateLimit := ⟨true, 2, 0, 60⟩
    let requests : List Request :=
      [.check "a" 0, .check "b" 0, .check "a" 400000000, .check "a" 999999999,
        .cleanup 1000000000, .check "a" 1000000000]
    let log := (withWindow config Duration.zero).decisions requests
    config.enabled = true ∧ (requests.map Request.now).Pairwise (· ≤ ·) ∧
      log.map (fun d => d.answer.isAllowed) = [true, true, true, false, true] ∧
      log.map Decision.request = requests.filter Request.isCheck ∧
      ∀ (key : String) (t : Instant),
        log.countP (fun d =>
          d.key = key ∧ d.answer.isAllowed ∧ t ≤ d.now ∧ d.now < t + 1000000000) ≤ 2 :=
  ⟨rfl, by decide, by decide, countP_allowed_le_limit _ Duration.zero _ rfl (by decide)⟩

end RateLimiter

end Courier
