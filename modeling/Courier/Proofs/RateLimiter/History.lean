import Courier.Proofs.RateLimiter.Run

/-! # What a limiter remembers

Of all the admissions of a key a limiter keeps the latest. As long as the clock
does not run backwards, those that it has forgotten have left the window for
good.
-/

namespace Courier

namespace RateLimiter

/-- The instant at which this key was admitted. -/
def Decision.admission? (key : String) (d : Decision) : Option Instant :=
  if d.key = key ∧ d.answer.isAllowed = true then some d.now else none

def admission? (l : RateLimiter) (key : String) (r : Request) : Option Instant :=
  (l.decision? r).bind (Decision.admission? key)

/-- The admissions of a key, the earliest first. -/
def admissionsOf (key : String) (log : List Decision) : List Instant :=
  log.filterMap (Decision.admission? key)

/-- At `now`, what a limiter has recorded for a key is what matters of all the
admissions in its past. -/
structure Remembers (l : RateLimiter) (key : String) (past : List Instant) (now : Instant) :
    Prop where
  sorted : past.Pairwise (· ≤ ·)
  le_now : ∀ a ∈ past, a ≤ now
  forgotten : ∃ gone, past = gone ++ l.recorded key ∧ ∀ a ∈ gone, l.isLive now a = false

variable {l : RateLimiter} {key : String} {past : List Instant} {now later a b : Instant}

theorem admissionsOf_decisions_cons (l : RateLimiter) (key : String) (r : Request)
    (rest : List Request) :
    admissionsOf key (l.decisions (r :: rest)) =
      (l.admission? key r).toList ++ admissionsOf key ((l.serve r).decisions rest) := by
  rw [decisions, admissionsOf, List.filterMap_append, admission?]
  cases hdecision : l.decision? r with
  | none => rfl
  | some d =>
      rw [Option.toList_some, List.filterMap_cons]
      cases hadmission : d.admission? key with
      | none => simp [hadmission, admissionsOf]
      | some a => simp [hadmission, admissionsOf]

theorem eq_check_of_admission? {r : Request} (hadmission : l.admission? key r = some a) :
    r = .check key a := by
  cases r with
  | check other now =>
      rw [admission?, decision?, Option.bind_some, Decision.admission?] at hadmission
      split at hadmission
      next hadmitted => rw [← Option.some.inj hadmission, ← hadmitted.1]
      next => cases hadmission
  | cleanup => cases hadmission

theorem now_of_admission? {r : Request} (hadmission : l.admission? key r = some a) :
    a = r.now := by
  rw [eq_check_of_admission? hadmission, Request.now]

theorem admission?_check_self (l : RateLimiter) (key : String) (now : Instant) :
    l.admission? key (.check key now) =
      if (l.check key now).2.isAllowed then some now else none := by
  simp [admission?, decision?, Decision.admission?]

theorem admission?_check_of_ne {other : String} (hne : key ≠ other) :
    l.admission? key (.check other now) = none := by
  simp [admission?, decision?, Decision.admission?, hne.symm]

theorem isLive_iff : l.isLive now a = true ↔ (now - a).toNat < l.window.nanos :=
  decide_eq_true_iff

theorem isLive_iff_sub_lt (hpos : 0 < l.window.nanos) :
    l.isLive now a = true ↔ now - a < l.window.nanos := by
  rw [isLive_iff, Int.toNat_lt' hpos]

theorem isLive_iff_lt_add (hpos : 0 < l.window.nanos) :
    l.isLive now a = true ↔ now < a + l.window.nanos := by
  rw [isLive_iff_sub_lt hpos]
  exact ⟨Int.lt_add_of_sub_left_lt, Int.sub_left_lt_of_lt_add⟩

theorem isLive_of_le (hle : now ≤ later) (hlive : l.isLive later a = true) :
    l.isLive now a = true := by
  rw [isLive_iff] at hlive ⊢
  exact Nat.lt_of_le_of_lt (Int.toNat_le_toNat (Int.sub_le_sub_right hle a)) hlive

theorem isLive_of_admitted_le (hle : a ≤ b) (hlive : l.isLive now a = true) :
    l.isLive now b = true := by
  rw [isLive_iff] at hlive ⊢
  exact Nat.lt_of_le_of_lt (Int.toNat_le_toNat (Int.sub_le_sub_left hle now)) hlive

theorem isLive_eq_false_of_le (hle : now ≤ later) (hgone : l.isLive now a = false) :
    l.isLive later a = false := by
  rw [Bool.eq_false_iff] at hgone ⊢
  exact fun hlive => hgone (isLive_of_le hle hlive)

/-- In front of sorted admissions stand all those that left the window. -/
theorem prune_eq_filter {admitted : List Instant} (hsorted : admitted.Pairwise (· ≤ ·)) :
    l.prune now admitted = admitted.filter (l.isLive now) := by
  induction admitted with
  | nil => rfl
  | cons a rest ih =>
      obtain ⟨hle, hrest⟩ := List.pairwise_cons.mp hsorted
      cases hlive : l.isLive now a with
      | false =>
          rw [List.filter_cons_of_neg (by simp [hlive]), ← ih hrest, prune,
            List.dropWhile_cons_of_pos (by simp [hlive]), prune]
      | true =>
          have hall : ∀ b ∈ rest, l.isLive now b = true :=
            fun b hb => isLive_of_admitted_le (hle b hb) hlive
          rw [List.filter_cons_of_pos hlive, List.filter_eq_self.mpr hall, prune,
            List.dropWhile_cons_of_neg (by simp [hlive])]

theorem isLive_eq_false_of_not_isFresh {admitted : List Instant}
    (hsorted : admitted.Pairwise (· ≤ ·)) (hstale : l.isFresh now admitted = false) :
    ∀ a ∈ admitted, l.isLive now a = false := by
  intro a ha
  rw [isFresh] at hstale
  split at hstale
  next latest hlatest =>
    obtain ⟨earlier, rfl⟩ := List.getLast?_eq_some_iff.mp hlatest
    rw [Bool.eq_false_iff] at hstale ⊢
    -- No admission is later than the latest, so one that is live makes that live.
    intro hlive
    apply hstale
    obtain hearlier | hlast := List.mem_append.mp ha
    · have hle : a ≤ latest :=
        (List.pairwise_append.mp hsorted).2.2 a hearlier latest (List.mem_singleton_self _)
      exact isLive_of_admitted_le hle hlive
    · rwa [← List.mem_singleton.mp hlast]
  next hempty =>
    rw [List.getLast?_eq_none_iff.mp hempty] at ha
    cases ha

namespace Remembers

theorem withWindow (config : RateLimit) (window : Duration) (key : String) (now : Instant) :
    Remembers (RateLimiter.withWindow config window) key [] now :=
  ⟨.nil, nofun, [], rfl, nofun⟩

theorem mono (h : Remembers l key past now) (hle : now ≤ later) : Remembers l key past later := by
  obtain ⟨gone, hpast, hgone⟩ := h.forgotten
  refine ⟨h.sorted, fun a ha => Int.le_trans (h.le_now a ha) hle, gone, hpast, ?_⟩
  exact fun a ha => isLive_eq_false_of_le hle (hgone a ha)

theorem sorted_recorded (h : Remembers l key past now) :
    (l.recorded key).Pairwise (· ≤ ·) := by
  obtain ⟨gone, hpast, _⟩ := h.forgotten
  have hsorted := h.sorted
  rw [hpast] at hsorted
  exact (List.pairwise_append.mp hsorted).2.1

/-- A check counts the admissions that are in the window, no others and none
of them twice. -/
theorem prune_recorded (h : Remembers l key past now) :
    l.prune now (l.recorded key) = past.filter (l.isLive now) := by
  obtain ⟨gone, hpast, hgone⟩ := h.forgotten
  have hnone : gone.filter (l.isLive now) = [] :=
    List.filter_eq_nil_iff.mpr fun a ha => Bool.eq_false_iff.mp (hgone a ha)
  rw [prune_eq_filter h.sorted_recorded, hpast, List.filter_append, hnone, List.nil_append]

theorem answer_check (henabled : l.config.enabled = true) (h : Remembers l key past now) :
    (l.check key now).2 = l.answer now (past.filter (l.isLive now)) := by
  rw [check_snd henabled, h.prune_recorded]

theorem of_recorded (h : Remembers l key past now) {after : RateLimiter}
    (hlive : after.isLive = l.isLive) (hrecorded : after.recorded key = l.recorded key) :
    Remembers after key past now := by
  obtain ⟨gone, hpast, hgone⟩ := h.forgotten
  exact ⟨h.sorted, h.le_now, gone, by rw [hrecorded, hpast], by rwa [hlive]⟩

theorem check_self (henabled : l.config.enabled = true) (h : Remembers l key past now) :
    Remembers (l.serve (.check key now)) key
      (past ++ (l.admission? key (.check key now)).toList) now := by
  obtain ⟨gone, hpast, hgone⟩ := h.forgotten
  have hnew : ∀ a ∈ (l.admission? key (.check key now)).toList, a = now :=
    fun a ha => now_of_admission? (Option.mem_toList.mp ha)
  refine ⟨?_, ?_, ?_⟩
  · refine List.pairwise_append.mpr ⟨h.sorted, ?_, ?_⟩
    · cases l.admission? key (.check key now) with
      | none => exact .nil
      | some a => exact List.pairwise_singleton _ _
    · intro a ha b hb
      rw [hnew b hb]
      exact h.le_now a ha
  · intro a ha
    obtain ha | ha := List.mem_append.mp ha
    · exact h.le_now a ha
    · exact Int.le_of_eq (hnew a ha)
  -- What the check prunes joins what was forgotten before.
  · refine ⟨gone ++ (l.recorded key).takeWhile fun a => !l.isLive now a, ?_, ?_⟩
    · rw [serve, recorded_check_self henabled, admission?_check_self, hpast, prune,
        List.append_assoc gone (List.takeWhile _ _), ← List.append_assoc (List.takeWhile _ _),
        List.takeWhile_append_dropWhile, List.append_assoc]
      split <;> rfl
    · intro a ha
      rw [serve_isLive]
      obtain ha | ha := List.mem_append.mp ha
      · exact hgone a ha
      · simpa using List.all_eq_true.mp List.all_takeWhile a ha

theorem cleanup (h : Remembers l key past now) :
    Remembers (l.serve (.cleanup now)) key past now := by
  by_cases hfresh : l.isFresh now (l.recorded key) = true
  · refine h.of_recorded (serve_isLive l _) ?_
    rw [serve, recorded_cleanup, if_pos hfresh]
  · obtain ⟨gone, hpast, hgone⟩ := h.forgotten
    have hstale := isLive_eq_false_of_not_isFresh h.sorted_recorded (Bool.eq_false_iff.mpr hfresh)
    refine ⟨h.sorted, h.le_now, past, ?_, ?_⟩
    · rw [serve, recorded_cleanup, if_neg hfresh, List.append_nil]
    · intro a ha
      rw [serve_isLive]
      rw [hpast] at ha
      obtain ha | ha := List.mem_append.mp ha
      · exact hgone a ha
      · exact hstale a ha

/-- Whatever is asked next, and of whichever key, nothing that matters is
forgotten. -/
theorem serve (henabled : l.config.enabled = true) {r : Request}
    (h : Remembers l key past r.now) :
    Remembers (l.serve r) key (past ++ (l.admission? key r).toList) r.now := by
  cases r with
  | check other now =>
      by_cases hkey : key = other
      · subst hkey
        exact check_self henabled h
      · rw [admission?_check_of_ne hkey, Option.toList_none, List.append_nil]
        exact h.of_recorded (serve_isLive l _) (recorded_check_of_ne hkey)
  | cleanup now =>
      have hnone : l.admission? key (.cleanup now) = none := rfl
      rw [hnone, Option.toList_none, List.append_nil]
      exact cleanup h

/-- Over a whole run nothing that matters is forgotten either. -/
theorem after {start : Instant} {requests : List Request} (henabled : l.config.enabled = true)
    (h : Remembers l key past start)
    (hforward : (start :: (requests.map Request.now ++ [later])).Pairwise (· ≤ ·)) :
    Remembers (l.after requests) key (past ++ admissionsOf key (l.decisions requests)) later := by
  induction requests generalizing l past start with
  | nil =>
      rw [decisions, admissionsOf, List.filterMap_nil, List.append_nil]
      exact h.mono (List.rel_of_pairwise_cons hforward (List.mem_singleton_self later))
  | cons r rest ih =>
      obtain ⟨hnext, hrest⟩ := List.pairwise_cons.mp hforward
      have hr := h.mono (hnext r.now List.mem_cons_self)
      rw [admissionsOf_decisions_cons, ← List.append_assoc]
      exact ih (by rwa [serve_config]) (hr.serve henabled) hrest

end Remembers

/-- What a new limiter remembers after a run is what matters of the admissions in
the log of the run. -/
theorem remembers_after_withWindow {config : RateLimit} (window : Duration) (key : String)
    {requests : List Request} (henabled : config.enabled = true)
    (hforward : (requests.map Request.now ++ [later]).Pairwise (· ≤ ·)) :
    Remembers ((withWindow config window).after requests) key
      (admissionsOf key ((withWindow config window).decisions requests)) later := by
  have hnew : ∀ start, Remembers (withWindow config window) key [] start :=
    Remembers.withWindow config window key
  cases requests with
  | nil => exact hnew later
  | cons r rest =>
      have hstart : (r.now :: ((r :: rest).map Request.now ++ [later])).Pairwise (· ≤ ·) :=
        List.pairwise_cons.mpr
          ⟨List.forall_mem_cons.mpr ⟨Int.le_refl _, (List.pairwise_cons.mp hforward).1⟩, hforward⟩
      exact (hnew r.now).after henabled hstart

end RateLimiter

end Courier
