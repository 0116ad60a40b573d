import Courier.Proofs.RateLimiter.History
import Courier.Proofs.RateLimiter.Recheck

/-! # How long a refusal lasts

A refusal names the time until the oldest admission that counts leaves the
window. A key never has more admissions that count than the limit, and it has
them in order. So the time is exact while the clock does not run backwards:
until then the key is refused whatever else is asked, and who asks first after
that is admitted.
-/

namespace Courier.RateLimiter

/-- Of the admissions of a key in the past just these are in the window at
`now`, the oldest first, and they are as many as the limit allows. -/
structure Full (l : RateLimiter) (past : List Instant) (now oldest : Instant)
    (newer : List Instant) : Prop where
  live : past.filter (l.isLive now) = oldest :: newer
  length : newer.length + 1 = l.config.limit.toNat

variable {l : RateLimiter} {key : String} {past newer : List Instant}
  {now later oldest : Instant} {retryAfter : Duration} {limit : UInt32}

theorem answer_of_full (hlength : newer.length + 1 = l.config.limit.toNat) (now : Instant) :
    l.answer now (oldest :: newer) =
      .denied (l.window.less (Instant.since now oldest)) l.config.limit := by
  rw [answer, List.length_cons, if_neg (not_ofNat_lt_limit hlength)]

/-- A refusal is due to a key that has used up a limit of at least one, and is
measured from the oldest of its admissions. -/
theorem exists_oldest_of_denied {live : List Instant} (hlimit : 1 ≤ l.config.limit)
    (hle : live.length ≤ l.config.limit.toNat)
    (hdenied : l.answer now live = .denied retryAfter limit) :
    limit = l.config.limit ∧ ∃ oldest newer, live = oldest :: newer ∧
      newer.length + 1 = l.config.limit.toNat ∧
      retryAfter = l.window.less (Instant.since now oldest) := by
  have hrefused : ¬(l.answer now live).isAllowed = true := by
    rw [hdenied]
    exact Bool.false_ne_true
  rw [isAllowed_answer_iff hle] at hrefused
  have hlength : live.length = l.config.limit.toNat := by omega
  cases live with
  | nil =>
      have hpos : 1 ≤ l.config.limit.toNat := UInt32.le_iff_toNat_le.mp hlimit
      rw [← hlength] at hpos
      cases hpos
  | cons oldest newer =>
      rw [answer_of_full hlength] at hdenied
      obtain ⟨hretry, hsame⟩ := Admission.denied.inj hdenied
      exact ⟨hsame.symm, oldest, newer, rfl, hlength, hretry.symm⟩

/-- Time that has passed since the refusal has passed since the oldest admission
too. -/
theorem less_since (holdest : oldest ≤ now) (hle : now ≤ later) (d : Duration) :
    (d.less (Instant.since now oldest)).less (Instant.since later now) =
      d.less (Instant.since later oldest) := by
  have hsum : Instant.since now oldest + Instant.since later now = Instant.since later oldest := by
    have hfirst := Int.toNat_of_nonneg (Int.sub_nonneg_of_le holdest)
    have hsecond := Int.toNat_of_nonneg (Int.sub_nonneg_of_le hle)
    have hwhole := Int.toNat_of_nonneg (Int.sub_nonneg_of_le (Int.le_trans holdest hle))
    unfold Instant.since
    grind
  apply Duration.ext
  simp only [Duration.less, Nat.sub_sub, hsum]

/-- What is in the window later is found among what is in it now. -/
theorem filter_isLive_of_le (hle : now ≤ later) (past : List Instant) :
    past.filter (l.isLive later) = (past.filter (l.isLive now)).filter (l.isLive later) := by
  rw [List.filter_filter]
  apply List.filter_congr
  intro a _
  rw [Bool.eq_iff_iff, Bool.and_eq_true]
  exact ⟨fun hlive => ⟨hlive, isLive_of_le hle hlive⟩, And.left⟩

namespace Full

theorem oldest_isLive (h : l.Full past now oldest newer) : l.isLive now oldest = true := by
  have hmem : oldest ∈ past.filter (l.isLive now) := h.live ▸ List.mem_cons_self
  exact (List.mem_filter.mp hmem).2

theorem oldest_mem (h : l.Full past now oldest newer) : oldest ∈ past := by
  have hmem : oldest ∈ past.filter (l.isLive now) := h.live ▸ List.mem_cons_self
  exact (List.mem_filter.mp hmem).1

theorem window_pos (h : l.Full past now oldest newer) : 0 < l.window.nanos :=
  Nat.zero_lt_of_lt (isLive_iff.mp h.oldest_isLive)

theorem after (h : l.Full past now oldest newer) (requests : List Request) :
    (l.after requests).Full past now oldest newer :=
  ⟨by rw [after_isLive, h.live], by rw [after_config, h.length]⟩

/-- Until the oldest of them leaves the window all the others stay. -/
theorem before (h : l.Full past now oldest newer) (hsorted : past.Pairwise (· ≤ ·))
    (hle : now ≤ later) (hbefore : later < oldest + l.window.nanos) :
    l.Full past later oldest newer := by
  have holdest : l.isLive later oldest = true := (isLive_iff_lt_add h.window_pos).mpr hbefore
  have hall : ∀ a ∈ oldest :: newer, l.isLive later a = true := by
    have hlive := hsorted.filter (l.isLive now)
    rw [h.live, List.pairwise_cons] at hlive
    intro a ha
    obtain rfl | ha := List.mem_cons.mp ha
    · exact holdest
    · exact isLive_of_admitted_le (hlive.1 a ha) holdest
  refine ⟨?_, h.length⟩
  rw [filter_isLive_of_le hle, h.live, List.filter_eq_self.mpr hall]

/-- Afterwards it is gone, and there is room. -/
theorem length_filter_lt (h : l.Full past now oldest newer) (hle : now ≤ later)
    (hafter : oldest + l.window.nanos ≤ later) :
    (past.filter (l.isLive later)).length < l.config.limit.toNat := by
  have hgone : ¬l.isLive later oldest = true := by
    rw [isLive_iff_lt_add h.window_pos]
    exact Int.not_lt.mpr hafter
  rw [filter_isLive_of_le hle, h.live, List.filter_cons_of_neg hgone, ← h.length]
  exact Nat.lt_succ_of_le (List.length_filter_le _ _)

/-- The time that a refusal names ends when the oldest admission leaves the
window. -/
theorem add_less (h : l.Full past now oldest newer) (hpast : ∀ a ∈ past, a ≤ now) :
    now + (l.window.less (Instant.since now oldest)).nanos = oldest + l.window.nanos := by
  have hnonneg : 0 ≤ now - oldest := Int.sub_nonneg_of_le (hpast oldest h.oldest_mem)
  have hlive : Instant.since now oldest ≤ l.window.nanos :=
    Nat.le_of_lt (isLive_iff.mp h.oldest_isLive)
  have hsince : (Instant.since now oldest : Int) = now - oldest := Int.toNat_of_nonneg hnonneg
  calc
    now + ((l.window.nanos - Instant.since now oldest : Nat) : Int)
      = now + (l.window.nanos - (now - oldest)) := by rw [Int.ofNat_sub hlive, hsince]
    _ = oldest + l.window.nanos := by grind

end Full

namespace Remembers

theorem answer_of_full (henabled : l.config.enabled = true) (h : Remembers l key past now)
    (hfull : l.Full past now oldest newer) :
    (l.check key now).2 = .denied (l.window.less (Instant.since now oldest)) l.config.limit := by
  rw [h.answer_check henabled, hfull.live, RateLimiter.answer_of_full hfull.length]

theorem allowed_of_length_lt (henabled : l.config.enabled = true) (h : Remembers l key past now)
    (hroom : (past.filter (l.isLive now)).length < l.config.limit.toNat) :
    ∃ remaining, (l.check key now).2 = .allowed remaining l.config.limit := by
  rw [h.answer_check henabled, answer_of_length_lt hroom]
  exact ⟨_, rfl⟩

/-- While the key is asked for only before its oldest admission leaves the window,
the admissions in its past stay what they are, whatever else is asked. -/
theorem after_of_full {start : Instant} {between : List Request}
    (henabled : l.config.enabled = true) (h : Remembers l key past start)
    (hfull : l.Full past now oldest newer) (hle : now ≤ start)
    (hforward : (start :: (between.map Request.now ++ [later])).Pairwise (· ≤ ·))
    (hbefore : ∀ t, .check key t ∈ between → t < oldest + l.window.nanos) :
    Remembers (l.after between) key past later := by
  induction between generalizing l start with
  | nil => exact h.mono (List.rel_of_pairwise_cons hforward (List.mem_singleton_self later))
  | cons r rest ih =>
      obtain ⟨hnext, hrest⟩ := List.pairwise_cons.mp hforward
      have hstart : start ≤ r.now := hnext r.now List.mem_cons_self
      have hr := h.mono hstart
      have hrefused : l.admission? key r = none := by
        cases r with
        | cleanup => rfl
        | check other t =>
            by_cases hkey : key = other
            · -- The key is still full, so that nothing is recorded for it.
              subst hkey
              have hstill := hfull.before h.sorted (Int.le_trans hle hstart)
                (hbefore t List.mem_cons_self)
              have hdenied : (l.check key t).2 = _ := hr.answer_of_full henabled hstill
              rw [admission?_check_self, hdenied]
              rfl
            · exact admission?_check_of_ne hkey
      have hserved := hr.serve henabled
      rw [hrefused, Option.toList_none, List.append_nil] at hserved
      refine ih (by rwa [serve_config]) hserved (hfull.after [r]) (Int.le_trans hle hstart) hrest ?_
      rw [serve_window]
      exact fun t hmem => hbefore t (List.mem_cons_of_mem r hmem)

theorem denied_before {between : List Request} (henabled : l.config.enabled = true)
    (h : Remembers l key past now) (hfull : l.Full past now oldest newer)
    (hforward : (now :: (between.map Request.now ++ [later])).Pairwise (· ≤ ·))
    (hbefore : later < oldest + l.window.nanos) :
    ((l.after between).check key later).2 =
      .denied (l.window.less (Instant.since later oldest)) l.config.limit := by
  obtain ⟨hnow, hrest⟩ := List.pairwise_cons.mp hforward
  have hle : now ≤ later := hnow later (List.mem_append_right _ (List.mem_singleton_self later))
  have hearlier : ∀ t, .check key t ∈ between → t < oldest + l.window.nanos := by
    intro t hmem
    have hlater : t ≤ later := (List.pairwise_append.mp hrest).2.2 _
      (List.mem_map_of_mem (f := Request.now) hmem) later (List.mem_singleton_self later)
    exact Int.lt_of_le_of_lt hlater hbefore
  have hafter := h.after_of_full henabled hfull (Int.le_refl now) hforward hearlier
  have hstill := (hfull.before h.sorted hle hbefore).after between
  rw [hafter.answer_of_full (by rwa [after_config]) hstill, after_window, after_config]

theorem allowed_after {between : List Request} (henabled : l.config.enabled = true)
    (h : Remembers l key past now) (hfull : l.Full past now oldest newer)
    (hforward : (now :: (between.map Request.now ++ [later])).Pairwise (· ≤ ·))
    (hdue : oldest + l.window.nanos ≤ later)
    (hbefore : ∀ t, .check key t ∈ between → t < oldest + l.window.nanos) :
    ∃ remaining, ((l.after between).check key later).2 = .allowed remaining l.config.limit := by
  have hle : now ≤ later := List.rel_of_pairwise_cons hforward
    (List.mem_append_right _ (List.mem_singleton_self later))
  have hafter := h.after_of_full henabled hfull (Int.le_refl now) hforward hbefore
  have hroom := hfull.length_filter_lt hle hdue
  rw [← after_isLive l between, ← after_config l between] at hroom
  rw [← after_config l between]
  exact hafter.allowed_of_length_lt (by rwa [after_config]) hroom

end Remembers

/-- As long as the clock does not run backwards, a refusal of a limiter with a limit
of at least one is exact: the time that it names is positive and within one
window, every further check of the key until then is refused with what is left
of that time, and the first one after that is admitted, whatever was asked in
between. -/
theorem retryAfter_exact (config : RateLimit) (window : Duration) (past : List Request)
    (key : String) (now : Instant) (retryAfter : Duration) (limit : UInt32)
    (henabled : config.enabled = true) (hlimit : 1 ≤ config.limit)
    (hforward : (past.map Request.now ++ [now]).Pairwise (· ≤ ·))
    (hdenied : (((withWindow config window).after past).check key now).2 =
      .denied retryAfter limit) :
    let refused := (withWindow config window).after (past ++ [.check key now])
    limit = config.limit ∧ 0 < retryAfter.nanos ∧ retryAfter.nanos ≤ refused.window.nanos ∧
      ∀ (between : List Request) (t : Instant),
        (now :: (between.map Request.now ++ [t])).Pairwise (· ≤ ·) →
          let answer := ((refused.after between).check key t).2
          (t < now + retryAfter.nanos →
            answer = .denied (retryAfter.less (Instant.since t now)) limit) ∧
          (now + retryAfter.nanos ≤ t →
            (∀ s, .check key s ∈ between → s < now + retryAfter.nanos) →
              ∃ remaining, answer = .allowed remaining limit) := by
  intro refused
  obtain ⟨l, hl⟩ : ∃ l, l = (withWindow config window).after past := ⟨_, rfl⟩
  have hconfig : l.config = config := hl ▸ after_config _ past
  have hbounded : l.Bounded := hl ▸ ((withWindow_wellKept config window).after past).bounded
  have h : Remembers l key _ now := hl ▸ remembers_after_withWindow window key henabled hforward
  have hrefused : refused = l.after [.check key now] := hl ▸ after_append _ past _
  rw [hrefused, after_window]
  rw [← hconfig] at henabled hlimit ⊢
  have hle := hbounded.length_prune_le now key
  rw [h.prune_recorded] at hle
  rw [← hl, h.answer_check henabled] at hdenied
  obtain ⟨rfl, oldest, newer, hlive, hlength, rfl⟩ := exists_oldest_of_denied hlimit hle hdenied
  have hfull : l.Full _ now oldest newer := ⟨hlive, hlength⟩
  have hdue := hfull.add_less h.le_now
  have hpos : 0 < (l.window.less (Instant.since now oldest)).nanos :=
    Nat.sub_pos_of_lt (isLive_iff.mp hfull.oldest_isLive)
  refine ⟨rfl, hpos, Nat.sub_le _ _, ?_⟩
  intro between t hfrom answer
  -- The check that was refused is the first of those to come.
  have hagain : (now :: ((.check key now :: between).map Request.now ++ [t])).Pairwise (· ≤ ·) :=
    List.pairwise_cons.mpr
      ⟨List.forall_mem_cons.mpr ⟨Int.le_refl now, (List.pairwise_cons.mp hfrom).1⟩, hfrom⟩
  constructor
  · intro hbefore
    have hnow : now ≤ t :=
      List.rel_of_pairwise_cons hfrom (List.mem_append_right _ (List.mem_singleton_self t))
    rw [less_since (h.le_now oldest hfull.oldest_mem) hnow]
    exact h.denied_before henabled hfull hagain (hdue ▸ hbefore)
  · intro hafter hothers
    refine h.allowed_after henabled hfull hagain (hdue ▸ hafter) fun s hmem => ?_
    rw [← hdue]
    obtain hself | hmem := List.mem_cons.mp hmem
    · obtain ⟨-, rfl⟩ := Request.check.inj hself
      exact Int.lt_add_of_pos_right _ (Int.natCast_pos.mpr hpos)
    · exact hothers s hmem

/-- Two per window of ten seconds, the first of them at the start. At six seconds
four are named. A nanosecond before they are over the key is refused; then a
cleanup finds the first admission dead, and the key is admitted. -/
theorem retryAfter_exact_of_limit_two :
    let config : RateLimit := ⟨true, 2, 10, 60⟩
    let past : List Request :=
      [.check "a" 0, .check "b" 1000000000, .check "a" 4000000000, .cleanup 5000000000]
    let between : List Request :=
      [.check "b" 7000000000, .check "a" 9999999999, .cleanup 10000000000]
    let l := withWindow config config.window
    let refused := l.after (past ++ [.check "a" 6000000000])
    config.enabled = true ∧ 1 ≤ config.limit ∧
      (past.map Request.now ++ [6000000000]).Pairwise (· ≤ ·) ∧
      ((l.after past).check "a" 6000000000).2 = .denied ⟨4000000000, by decide⟩ 2 ∧
      ((refused.after [.check "b" 7000000000]).check "a" 9999999999).2 =
        .denied ⟨1, by decide⟩ 2 ∧
      ∃ remaining, ((refused.after between).check "a" 10000000000).2 = .allowed remaining 2 := by
  intro config past between l refused
  have hdenied : ((l.after past).check "a" 6000000000).2 = .denied ⟨4000000000, by decide⟩ 2 := by
    decide
  obtain ⟨-, -, -, hexact⟩ := retryAfter_exact config config.window past "a" 6000000000
    ⟨4000000000, by decide⟩ 2 rfl (by decide) (by decide) hdenied
  refine ⟨rfl, by decide, by decide, hdenied, ?_, ?_⟩
  · exact (hexact [.check "b" 7000000000] 9999999999 (by decide)).1 (by decide)
  · refine (hexact between 10000000000 (by decide)).2 (by decide) fun s hmem => ?_
    have hs : s = 9999999999 := by simpa [between] using hmem
    rw [hs]
    decide

end Courier.RateLimiter
