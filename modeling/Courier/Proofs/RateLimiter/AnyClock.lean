import Courier.Proofs.RateLimiter.Forgetting

/-! # Any clock

With a clock that jumps back and forth the recorded admissions of a key are out of
order, and a check may forget more of them than it should, or fewer. The
counts are exact even then: what is recorded is the latest part of the
admissions, it never outgrows the limit, and so neither the count in 32 bits nor
what remains of the limit ever wraps around.
-/

namespace Courier.RateLimiter

variable {l : RateLimiter} {key : String} {now : Instant} {retryAfter : Duration}
  {remaining limit : UInt32}

/-- A check counts in whole numbers: the live admissions that it finds, and what
is recorded for the key afterwards. -/
structure CountsExactly (l : RateLimiter) (key : String) (now : Instant) : Prop where
  counted : (UInt32.ofNat (l.live key now).length).toNat = (l.live key now).length
  /-- There was room for one more, and it is recorded. -/
  allowed : ∀ remaining limit, (l.check key now).2 = .allowed remaining limit →
    limit = l.config.limit ∧ (l.live key now).length < limit.toNat ∧
      (l.check key now).1.recorded key = l.live key now ++ [now] ∧
      remaining.toNat + ((l.check key now).1.recorded key).length = limit.toNat
  /-- There was no room, and nothing is recorded. -/
  denied : ∀ retryAfter limit, (l.check key now).2 = .denied retryAfter limit →
    limit = l.config.limit ∧ (l.live key now).length = limit.toNat ∧
      (l.check key now).1.recorded key = l.live key now ∧
      retryAfter.nanos ≤ l.window.nanos

theorem toNat_ofNat_of_le_limit {n : Nat} (hle : n ≤ limit.toNat) :
    (UInt32.ofNat n).toNat = n :=
  UInt32.toNat_ofNat_of_lt' (Nat.lt_of_le_of_lt hle limit.toNat_lt)

theorem of_answer_eq_allowed {live : List Instant} (hle : live.length ≤ l.config.limit.toNat)
    (hallowed : l.answer now live = .allowed remaining limit) :
    limit = l.config.limit ∧ live.length < limit.toNat ∧
      remaining.toNat + (live.length + 1) = limit.toNat := by
  have hroom : live.length < l.config.limit.toNat := by
    have hanswer : (l.answer now live).isAllowed = true := by rw [hallowed, Admission.isAllowed]
    exact (isAllowed_answer_iff hle).mp hanswer
  rw [answer_of_length_lt hroom] at hallowed
  obtain ⟨rfl, rfl⟩ := Admission.allowed.inj hallowed
  have hremaining : l.config.limit.toNat - live.length - 1 ≤ l.config.limit.toNat := by omega
  refine ⟨rfl, hroom, ?_⟩
  rw [toNat_ofNat_of_le_limit hremaining]
  omega

/-- A refusal never names more than one window, even if nothing at all was admitted
under a limit of zero. -/
theorem of_answer_eq_denied {live : List Instant} (hle : live.length ≤ l.config.limit.toNat)
    (hdenied : l.answer now live = .denied retryAfter limit) :
    limit = l.config.limit ∧ live.length = limit.toNat ∧ retryAfter.nanos ≤ l.window.nanos := by
  have hfull : ¬live.length < l.config.limit.toNat := by
    have hanswer : ¬(l.answer now live).isAllowed = true := by
      rw [hdenied]
      exact Bool.false_ne_true
    exact mt (isAllowed_answer_iff hle).mpr hanswer
  have hlength : live.length = l.config.limit.toNat := Nat.le_antisymm hle (Nat.le_of_not_lt hfull)
  simp only [answer, if_neg (not_ofNat_lt_limit hlength)] at hdenied
  cases live with
  | nil =>
      obtain ⟨rfl, rfl⟩ := Admission.denied.inj hdenied
      exact ⟨rfl, hlength, Nat.zero_le _⟩
  | cons oldest newer =>
      obtain ⟨rfl, rfl⟩ := Admission.denied.inj hdenied
      exact ⟨rfl, hlength, Nat.sub_le _ _⟩

theorem Bounded.countsExactly (hbounded : l.Bounded) (henabled : l.config.enabled = true)
    (key : String) (now : Instant) : l.CountsExactly key now := by
  have hle : (l.live key now).length ≤ l.config.limit.toNat := hbounded.length_prune_le now key
  have hanswer : (l.check key now).2 = l.answer now (l.live key now) := check_snd henabled key now
  have hrecorded : (l.check key now).1.recorded key =
      l.live key now ++ if (l.check key now).2.isAllowed then [now] else [] :=
    recorded_check_self henabled key now
  refine ⟨toNat_ofNat_of_le_limit hle, ?_, ?_⟩
  · intro remaining limit hallowed
    rw [hallowed] at hrecorded
    obtain ⟨hlimit, hroom, hsum⟩ := of_answer_eq_allowed hle (hanswer.symm.trans hallowed)
    refine ⟨hlimit, hroom, hrecorded, ?_⟩
    rw [hrecorded, List.length_append]
    exact hsum
  · intro retryAfter limit hdenied
    rw [hdenied] at hrecorded
    obtain ⟨hlimit, hlength, hwait⟩ := of_answer_eq_denied hle (hanswer.symm.trans hdenied)
    exact ⟨hlimit, hlength, hrecorded.trans (List.append_nil _), hwait⟩

/-- If what is recorded for a key was the latest part of its past, it still is when
the next request has joined the past. -/
theorem recorded_serve_suffix (henabled : l.config.enabled = true) {past : List Instant}
    (hsuffix : l.recorded key <:+ past) (r : Request) :
    (l.serve r).recorded key <:+ past ++ (l.admission? key r).toList := by
  cases r with
  | check other now =>
      by_cases hkey : key = other
      · subst hkey
        rw [serve, recorded_check_self henabled, admission?_check_self, prune]
        obtain ⟨gone, hgone⟩ := (List.dropWhile_suffix fun a => !l.isLive now a).trans hsuffix
        refine ⟨gone, ?_⟩
        rw [← List.append_assoc, hgone]
        split <;> rfl
      · rw [serve, recorded_check_of_ne hkey, admission?_check_of_ne hkey, Option.toList_none,
          List.append_nil]
        exact hsuffix
  | cleanup now =>
      have hnone : l.admission? key (.cleanup now) = none := rfl
      rw [serve, recorded_cleanup, hnone, Option.toList_none, List.append_nil]
      split
      next => exact hsuffix
      next => exact List.nil_suffix

theorem recorded_after_suffix (henabled : l.config.enabled = true) {past : List Instant}
    (hsuffix : l.recorded key <:+ past) (requests : List Request) :
    (l.after requests).recorded key <:+ past ++ admissionsOf key (l.decisions requests) := by
  induction requests generalizing l past with
  | nil =>
      rw [decisions, admissionsOf, List.filterMap_nil, List.append_nil]
      exact hsuffix
  | cons r rest ih =>
      rw [admissionsOf_decisions_cons, ← List.append_assoc]
      exact ih (by rwa [serve_config]) (recorded_serve_suffix henabled hsuffix r)

/-- Whatever the instants are, and in whatever order they come, an enabled limiter
has recorded for each key the latest of its admissions, each of them once, and no
more of them than the limit. So their number fits into 32 bits, an admitted check
leaves exactly what is not recorded of the limit, and a refused one has found as
many as the limit and names no more than one window. -/
theorem countsExactly_after (config : RateLimit) (window : Duration) (requests : List Request)
    (henabled : config.enabled = true) :
    let new := withWindow config window
    let l := new.after requests
    ∀ key, (l.recorded key).length ≤ config.limit.toNat ∧
      (UInt32.ofNat (l.recorded key).length).toNat = (l.recorded key).length ∧
      l.recorded key <:+ admissionsOf key (new.decisions requests) ∧
      ∀ now, l.CountsExactly key now := by
  intro new l key
  have hconfig : l.config = config := after_config new requests
  have hbounded : l.Bounded := ((withWindow_wellKept config window).after requests).bounded
  have hle : (l.recorded key).length ≤ config.limit.toNat := hconfig ▸ hbounded key
  have hnew : new.recorded key <:+ [] := List.suffix_refl []
  have hlatest : l.recorded key <:+ admissionsOf key (new.decisions requests) :=
    recorded_after_suffix henabled hnew requests
  exact ⟨hle, toNat_ofNat_of_le_limit hle, hlatest,
    hbounded.countsExactly (hconfig ▸ henabled) key⟩

/-- Two per window of ten seconds, and a clock that goes back from twenty seconds to
zero and on to twelve. The admission at twenty seconds stands in front of that at
zero: at twelve seconds the second is out of the window and is counted all the
same. A limit of zero refuses without a wait, and the largest limit loses one. -/
theorem countsExactly_after_of_disorder :
    let config : RateLimit := ⟨true, 2, 10, 60⟩
    let requests : List Request :=
      [.check "a" 20000000000, .check "b" 5, .check "a" 0, .cleanup 3000000000]
    let l := (withWindow config config.window).after requests
    let closed := withWindow ⟨true, 0, 10, 60⟩ (Duration.ofSeconds 10)
    let widest := withWindow ⟨true, 4294967295, 10, 60⟩ (Duration.ofSeconds 10)
    config.enabled = true ∧ l.recorded "a" = [20000000000, 0] ∧
      (l.recorded "a").length ≤ 2 ∧
      l.recorded "a" <:+
        admissionsOf "a" ((withWindow config config.window).decisions requests) ∧
      l.isLive 12000000000 0 = false ∧
      (l.check "a" 12000000000).2 = .denied (Duration.ofSeconds 10) 2 ∧
      (l.live "a" 12000000000).length = 2 ∧
      (Duration.ofSeconds 10).nanos ≤ l.window.nanos ∧
      (closed.check "a" 0).2 = .denied Duration.zero 0 ∧ (closed.live "a" 0).length = 0 ∧
      (widest.check "a" 0).2 = .allowed 4294967294 4294967295 ∧
      (4294967294 : UInt32).toNat + ((widest.check "a" 0).1.recorded "a").length = 4294967295 := by
  intro config requests l closed widest
  obtain ⟨hle, -, hlatest, hcounts⟩ := countsExactly_after config config.window requests rfl "a"
  obtain ⟨-, -, -, hclosed⟩ :=
    countsExactly_after ⟨true, 0, 10, 60⟩ (Duration.ofSeconds 10) [] rfl "a"
  obtain ⟨-, -, -, hwidest⟩ :=
    countsExactly_after ⟨true, 4294967295, 10, 60⟩ (Duration.ofSeconds 10) [] rfl "a"
  have hdenied : (l.check "a" 12000000000).2 = .denied (Duration.ofSeconds 10) 2 := by decide
  have hrefused : (closed.check "a" 0).2 = .denied Duration.zero 0 := by decide
  have hallowed : (widest.check "a" 0).2 = .allowed 4294967294 4294967295 := by decide
  obtain ⟨-, hlength, -, hwait⟩ := (hcounts 12000000000).denied _ _ hdenied
  exact ⟨rfl, by decide, hle, hlatest, by decide, hdenied, hlength, hwait, hrefused,
    ((hclosed 0).denied _ _ hrefused).2.1, hallowed, ((hwidest 0).allowed _ _ hallowed).2.2.2⟩

end Courier.RateLimiter
