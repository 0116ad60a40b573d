import Courier.Proofs.RateLimiter.Forgetting

/-! # What a cleanup drops

A cleanup looks at the latest admission of each key and at no other. As long as
the clock does not run backwards, the admissions of a key are in order, so that
the latest is in the window just if any is: what is dropped is dead, and what is
dead is dropped.
-/

namespace Courier.RateLimiter

variable {l : RateLimiter} {key : String} {now : Instant} {requests : List Request}

/-- The latest of sorted admissions speaks for all of them. -/
theorem isFresh_iff {admitted : List Instant} (hsorted : admitted.Pairwise (· ≤ ·)) :
    l.isFresh now admitted = true ↔ ∃ a ∈ admitted, l.isLive now a = true := by
  constructor
  · intro hfresh
    rw [isFresh] at hfresh
    split at hfresh
    next latest hlatest => exact ⟨latest, List.mem_of_getLast? hlatest, hfresh⟩
    next => cases hfresh
  · rintro ⟨a, ha, hlive⟩
    cases hfresh : l.isFresh now admitted with
    | true => rfl
    | false =>
        rw [isLive_eq_false_of_not_isFresh hsorted hfresh a ha] at hlive
        cases hlive

/-- A limiter that is not enabled records nothing. -/
theorem recorded_after_of_disabled (hdisabled : ¬l.config.enabled = true)
    (hnone : l.recorded key = []) (requests : List Request) :
    (l.after requests).recorded key = [] := by
  induction requests generalizing l with
  | nil => exact hnone
  | cons r rest ih =>
      refine ih (by rwa [serve_config]) ?_
      cases r with
      | check other now => rwa [serve, check_of_disabled hdisabled]
      | cleanup now => rw [serve, recorded_cleanup, hnone, ite_self]

theorem sorted_recorded_after (config : RateLimit) (window : Duration) (key : String)
    (hforward : (requests.map Request.now ++ [now]).Pairwise (· ≤ ·)) :
    (((withWindow config window).after requests).recorded key).Pairwise (· ≤ ·) := by
  -- What an enabled limiter remembers is a part of a past that is in order.
  by_cases henabled : config.enabled = true
  · exact (remembers_after_withWindow window key henabled hforward).sorted_recorded
  · rw [recorded_after_of_disabled henabled rfl requests]
    exact .nil

/-- A key is kept just if one of its admissions is live. -/
theorem mem_keys_cleanup_iff (hsorted : (l.recorded key).Pairwise (· ≤ ·)) :
    key ∈ (l.cleanup now).admissions.keys ↔ ∃ a ∈ l.recorded key, l.isLive now a = true := by
  rw [cleanup, Table.mem_keys_filter_iff, ← isFresh_iff hsorted, recorded, Table.getD]
  cases l.admissions.get? key with
  | none => simp [isFresh]
  | some admitted => simp

theorem Remembers.exists_isLive_iff {past : List Instant} (h : Remembers l key past now) :
    (∃ a ∈ l.recorded key, l.isLive now a = true) ↔ ∃ a ∈ past, l.isLive now a = true := by
  obtain ⟨gone, hpast, hgone⟩ := h.forgotten
  rw [hpast]
  constructor
  · rintro ⟨a, ha, hlive⟩
    exact ⟨a, List.mem_append_right gone ha, hlive⟩
  · rintro ⟨a, ha, hlive⟩
    obtain hmem | hmem := List.mem_append.mp ha
    · rw [hgone a hmem] at hlive
      cases hlive
    · exact ⟨a, hmem, hlive⟩

/-- A second cleanup at the same instant finds nothing to do. -/
theorem cleanup_cleanup (l : RateLimiter) (now : Instant) :
    (l.cleanup now).cleanup now = l.cleanup now := by
  have hfresh : (l.cleanup now).isFresh now = l.isFresh now := rfl
  unfold cleanup at hfresh ⊢
  rw [hfresh, Table.filter_filter_self]

theorem staleKeys_add_trackedKeys (l : RateLimiter) (now : Instant) :
    l.staleKeys now + (l.cleanup now).trackedKeys = l.trackedKeys :=
  Nat.sub_add_cancel (Table.size_filter_le _ _)

/-- As long as the clock does not run backwards, a cleanup keeps just the keys with
a recorded admission in the window, and for an enabled limiter these are just the
keys that were admitted at all within the window; it changes nothing about them,
counts the keys by which the table shrinks, and done again at once it drops
nothing. -/
theorem cleanup_drops_dead_keys (config : RateLimit) (window : Duration)
    (requests : List Request) (now : Instant)
    (hforward : (requests.map Request.now ++ [now]).Pairwise (· ≤ ·)) :
    let new := withWindow config window
    let l := new.after requests
    let cleaned := l.cleanup now
    (∀ key, key ∈ cleaned.admissions.keys ↔ ∃ a ∈ l.recorded key, now - a < l.window.nanos) ∧
      (∀ key ∈ cleaned.admissions.keys, cleaned.admissions.get? key = l.admissions.get? key) ∧
      (config.enabled = true → ∀ key, key ∈ cleaned.admissions.keys ↔
        ∃ a ∈ admissionsOf key (new.decisions requests), now - a < l.window.nanos) ∧
      l.staleKeys now + cleaned.trackedKeys = l.trackedKeys ∧
      cleaned.staleKeys now = 0 ∧ cleaned.cleanup now = cleaned := by
  intro new l cleaned
  have hpos : 0 < l.window.nanos :=
    ((withWindow_wellKept config window).after requests).window_pos
  have hkept : ∀ key, key ∈ cleaned.admissions.keys ↔ ∃ a ∈ l.recorded key, l.isLive now a = true :=
    fun key => mem_keys_cleanup_iff (sorted_recorded_after config window key hforward)
  have hagain : cleaned.cleanup now = cleaned := cleanup_cleanup l now
  refine ⟨?_, fun key => Table.get?_filter_of_mem_keys, ?_, staleKeys_add_trackedKeys l now, ?_,
    hagain⟩
  · intro key
    simp only [hkept, isLive_iff_sub_lt hpos]
  · intro henabled key
    have hsame : (∃ a ∈ l.recorded key, l.isLive now a = true) ↔
        ∃ a ∈ admissionsOf key (new.decisions requests), l.isLive now a = true :=
      (remembers_after_withWindow window key henabled hforward).exists_isLive_iff
    rw [hkept, hsame]
    simp only [isLive_iff_sub_lt hpos]
  · rw [staleKeys, hagain, Nat.sub_self]

/-- Two per window of ten seconds. At twelve seconds the first admission of `a` is
dead and the second live, `b` has a dead one, and `c` a new one. A key that was
only ever refused, under a limit of zero, goes away as well. -/
theorem cleanup_drops_dead_keys_of_three :
    let config : RateLimit := ⟨true, 2, 10, 60⟩
    let requests : List Request :=
      [.check "a" 0, .check "b" 1000000000, .check "a" 8000000000, .check "c" 12000000000]
    let l := (withWindow config config.window).after requests
    let cleaned := l.cleanup 12000000000
    let closed : RateLimit := ⟨true, 0, 10, 60⟩
    let refusing := (withWindow closed closed.window).after [.check "a" 0]
    (requests.map Request.now ++ [12000000000]).Pairwise (· ≤ ·) ∧ config.enabled = true ∧
      l.admissions.keys = ["c", "b", "a"] ∧ l.recorded "a" = [0, 8000000000] ∧
      "a" ∈ cleaned.admissions.keys ∧ "b" ∉ cleaned.admissions.keys ∧
      cleaned.recorded "a" = [0, 8000000000] ∧
      l.staleKeys 12000000000 + cleaned.trackedKeys = l.trackedKeys ∧
      l.staleKeys 12000000000 = 1 ∧ cleaned.staleKeys 12000000000 = 0 ∧
      refusing.admissions.keys = ["a"] ∧ "a" ∉ (refusing.cleanup 0).admissions.keys := by
  intro config requests l cleaned closed refusing
  have hforward : (requests.map Request.now ++ [12000000000]).Pairwise (· ≤ ·) := by decide
  obtain ⟨hkept, hsame, hadmitted, hcount, hnone, -⟩ :=
    cleanup_drops_dead_keys config config.window requests 12000000000 hforward
  obtain ⟨hopen, -⟩ := cleanup_drops_dead_keys closed closed.window [.check "a" 0] 0 (by decide)
  have ha : "a" ∈ cleaned.admissions.keys := (hadmitted rfl "a").mpr (by decide)
  have hget : cleaned.recorded "a" = l.recorded "a" := by
    rw [recorded, Table.getD, hsame "a" ha, recorded, Table.getD]
  refine ⟨hforward, rfl, by decide, by decide, ha, mt (hkept "b").mp (by decide), ?_, hcount,
    by decide, hnone, by decide, mt (hopen "a").mp (by decide)⟩
  rw [hget]
  decide

end Courier.RateLimiter
