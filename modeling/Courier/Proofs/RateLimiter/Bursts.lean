import Courier.Proofs.RateLimiter.Isolation
import Courier.Proofs.RateLimiter.Recheck

/-! # Bursts

Who asks reads the clock before it is their turn, so that the instants of checks
need not stand in the order in which the checks reach the limiter, and what it
records need not be sorted. Within one window that does not matter: no admission
is pruned, no cleanup drops the key, and the first to come are admitted, as many
as the limit allows, whatever their instants are.
-/

namespace Courier.RateLimiter

namespace Request

/-- The request is about this key, be it alone or with all others. -/
def concerns (key : String) : Request → Bool
  | .check other _ => other = key
  | .cleanup _ => true

end Request

/-- Requests in the order in which they reach the limiter. None that concerns the
key is a whole window ahead of a check of it, so that any two checks of the key
are less than a window apart, whichever of them comes first. -/
def IsBurst (window : Duration) (key : String) (requests : List Request) : Prop :=
  ∀ q ∈ requests, q.asksFor key = true →
    ∀ r ∈ requests, r.concerns key = true → r.now < q.now + window.nanos

instance (window : Duration) (key : String) (requests : List Request) :
    Decidable (IsBurst window key requests) :=
  inferInstanceAs (Decidable (∀ q ∈ requests, q.asksFor key = true →
    ∀ r ∈ requests, r.concerns key = true → r.now < q.now + window.nanos))

/-- These are all the admissions that are recorded for the key, and none of the
requests to come will find one of them, or of those that join them, dead. -/
structure Gathers (l : RateLimiter) (key : String) (taken : List Instant)
    (requests : List Request) : Prop where
  recorded : l.recorded key = taken
  near : ∀ s, s ∈ taken ∨ .check key s ∈ requests →
    ∀ r ∈ requests, r.concerns key = true → r.now < s + l.window.nanos

variable {l : RateLimiter} {key : String} {taken : List Instant} {r : Request}
  {requests : List Request} {now : Instant}

theorem prune_of_forall_isLive {admitted : List Instant}
    (hlive : ∀ a ∈ admitted, l.isLive now a = true) : l.prune now admitted = admitted := by
  cases admitted with
  | nil => rfl
  | cons a rest => exact prune_eq_self (hlive a List.mem_cons_self) rest

theorem isFresh_of_forall_isLive {admitted : List Instant} (hne : admitted ≠ [])
    (hlive : ∀ a ∈ admitted, l.isLive now a = true) : l.isFresh now admitted = true := by
  rw [isFresh, List.getLast?_eq_some_getLast hne]
  exact hlive _ (List.getLast_mem hne)

/-! ## The decisions on one key -/

theorem filter_decisions_check_self (l : RateLimiter) (key : String) (now : Instant)
    (rest : List Request) :
    (l.decisions (.check key now :: rest)).filter (fun d => d.key = key) =
      ⟨key, now, (l.check key now).2⟩ ::
        ((l.serve (.check key now)).decisions rest).filter (fun d => d.key = key) := by
  rw [decisions, decision?, Option.toList_some, List.cons_append, List.nil_append,
    List.filter_cons_of_pos (by simp)]

theorem filter_decisions_of_not_asksFor (hasks : r.asksFor key = false) (l : RateLimiter)
    (rest : List Request) :
    (l.decisions (r :: rest)).filter (fun d => d.key = key) =
      ((l.serve r).decisions rest).filter (fun d => d.key = key) := by
  cases r with
  | check other now =>
      rw [decisions, decision?, Option.toList_some, List.cons_append, List.nil_append]
      exact List.filter_cons_of_neg (by simpa [Request.asksFor] using hasks)
  | cleanup => rfl

theorem admission?_of_not_asksFor (hasks : r.asksFor key = false) (l : RateLimiter) :
    l.admission? key r = none := by
  cases r with
  | check other now => exact admission?_check_of_ne (Ne.symm (of_decide_eq_false hasks))
  | cleanup => rfl

theorem exists_eq_check_of_asksFor (hasks : r.asksFor key = true) : ∃ now, r = .check key now := by
  cases r with
  | check other now => exact ⟨now, by rw [of_decide_eq_true hasks]⟩
  | cleanup => cases hasks

/-- Every check of a key has its decision, in the same order. -/
theorem map_request_filter_decisions (l : RateLimiter) (key : String) (requests : List Request) :
    ((l.decisions requests).filter fun d => d.key = key).map Decision.request =
      requests.filter (Request.asksFor key) := by
  induction requests generalizing l with
  | nil => rfl
  | cons r rest ih =>
      cases hasks : r.asksFor key with
      | true =>
          obtain ⟨now, rfl⟩ := exists_eq_check_of_asksFor hasks
          rw [filter_decisions_check_self, List.map_cons, ih, List.filter_cons_of_pos hasks]
          rfl
      | false =>
          rw [filter_decisions_of_not_asksFor hasks, ih,
            List.filter_cons_of_neg (Bool.eq_false_iff.mp hasks)]

namespace Gathers

theorem isLive (h : l.Gathers key taken (r :: requests)) (hkept : l.WellKept)
    (hconcerns : r.concerns key = true) : ∀ a ∈ taken, l.isLive r.now a = true :=
  fun a ha =>
    (isLive_iff_lt_add hkept.window_pos).mpr (h.near a (.inl ha) r List.mem_cons_self hconcerns)

/-- A check of the key counts all its admissions so far. -/
theorem live (h : l.Gathers key taken (.check key now :: requests)) (hkept : l.WellKept) :
    l.live key now = taken := by
  have hlive : ∀ a ∈ taken, l.isLive now a = true := h.isLive hkept (decide_eq_true rfl)
  rw [RateLimiter.live, h.recorded, prune_of_forall_isLive hlive]

/-- What is recorded for the key only grows, by what is admitted. -/
theorem recorded_serve (h : l.Gathers key taken (r :: requests)) (hkept : l.WellKept)
    (henabled : l.config.enabled = true) :
    (l.serve r).recorded key = taken ++ (l.admission? key r).toList := by
  cases r with
  | check other now =>
      by_cases hkey : key = other
      · subst hkey
        rw [RateLimiter.serve, recorded_check_self henabled, admission?_check_self,
          ← RateLimiter.live, h.live hkept]
        split <;> rfl
      · rw [RateLimiter.serve, recorded_check_of_ne hkey, h.recorded, admission?_check_of_ne hkey,
          Option.toList_none, List.append_nil]
  | cleanup now =>
      have hnone : l.admission? key (.cleanup now) = none := rfl
      have hlive : ∀ a ∈ taken, l.isLive now a = true := h.isLive hkept rfl
      rw [RateLimiter.serve, recorded_cleanup, h.recorded, hnone, Option.toList_none,
        List.append_nil]
      by_cases hempty : taken = []
      · rw [hempty, ite_self]
      · rw [if_pos (isFresh_of_forall_isLive hempty hlive)]

theorem serve (h : l.Gathers key taken (r :: requests)) (hkept : l.WellKept)
    (henabled : l.config.enabled = true) :
    (l.serve r).Gathers key (taken ++ (l.admission? key r).toList) requests where
  recorded := h.recorded_serve hkept henabled
  near := by
    intro s hs r' hr'
    rw [serve_window]
    refine h.near s ?_ r' (List.mem_cons_of_mem r hr')
    obtain hs | hs := hs
    · obtain hs | hs := List.mem_append.mp hs
      · exact .inl hs
      · -- What has joined them was itself among the requests to come.
        rw [eq_check_of_admission? (Option.mem_toList.mp hs)]
        exact .inr List.mem_cons_self
    · exact .inr (List.mem_cons_of_mem r hs)

theorem length_le (h : l.Gathers key taken requests) (hkept : l.WellKept) :
    taken.length ≤ l.config.limit.toNat := by
  rw [← h.recorded]
  exact hkept.bounded key

theorem check_snd (h : l.Gathers key taken (.check key now :: requests)) (hkept : l.WellKept)
    (henabled : l.config.enabled = true) : (l.check key now).2 = l.answer now taken := by
  rw [RateLimiter.check_snd henabled, ← RateLimiter.live, h.live hkept]

/-- A check takes one of the places that are left, if any is. -/
theorem length_admitted (h : l.Gathers key taken (.check key now :: requests))
    (hkept : l.WellKept) (henabled : l.config.enabled = true) :
    (taken ++ (l.admission? key (.check key now)).toList).length =
      min (taken.length + 1) l.config.limit.toNat := by
  have hle := h.length_le hkept
  have hallowed : (l.answer now taken).isAllowed = true ↔ _ := isAllowed_answer_iff hle
  rw [admission?_check_self, h.check_snd hkept henabled, List.length_append]
  split
  next hadmitted =>
    have hroom := hallowed.mp hadmitted
    rw [Option.toList_some, List.length_singleton]
    omega
  next hrefused =>
    have hfull := mt hallowed.mpr hrefused
    rw [Option.toList_none, List.length_nil]
    omega

/-- The places are given away in the order in which the checks reach the limiter. -/
theorem answer (h : l.Gathers key taken requests) (hkept : l.WellKept)
    (henabled : l.config.enabled = true) {i : Nat} {d : Decision}
    (hd : ((l.decisions requests).filter fun d => d.key = key)[i]? = some d) :
    (taken.length + i < l.config.limit.toNat → d.answer =
      .allowed (UInt32.ofNat (l.config.limit.toNat - (taken.length + i) - 1)) l.config.limit) ∧
    (l.config.limit.toNat ≤ taken.length + i →
      ∃ retryAfter, d.answer = .denied retryAfter l.config.limit) := by
  -- Each request hands on `Gathers`, and each check of the key one place less to
  -- go, be it that a place was taken or that none was left.
  induction requests generalizing l taken i with
  | nil => cases hd
  | cons r rest ih =>
      have hserved := h.serve hkept henabled
      have henabled' : (l.serve r).config.enabled = true := by rwa [serve_config]
      cases hasks : r.asksFor key with
      | false =>
          rw [filter_decisions_of_not_asksFor hasks] at hd
          rw [admission?_of_not_asksFor hasks, Option.toList_none, List.append_nil] at hserved
          have hrest := ih hserved (hkept.serve r) henabled' hd
          rwa [serve_config] at hrest
      | true =>
          obtain ⟨now, rfl⟩ := exists_eq_check_of_asksFor hasks
          rw [filter_decisions_check_self] at hd
          cases i with
          | zero =>
              obtain rfl := Option.some.inj hd
              rw [h.check_snd hkept henabled, Nat.add_zero]
              refine ⟨fun hroom => answer_of_length_lt hroom now, fun hfull => ?_⟩
              exact exists_denied_of_length_eq (Nat.le_antisymm (h.length_le hkept) hfull) now
          | succ i =>
              have hrest := ih hserved (hkept.serve _) henabled' hd
              rw [serve_config, h.length_admitted hkept henabled] at hrest
              refine ⟨fun hroom => ?_, fun hfull => hrest.2 (by omega)⟩
              have hplaces : min (taken.length + 1) l.config.limit.toNat + i =
                  taken.length + (i + 1) := by
                omega
              rw [hplaces] at hrest
              exact hrest.1 hroom

end Gathers

/-- If just the first `n` pass, as many do as there are, or `n`. -/
theorem countP_eq_min_of_getElem? {α : Type} {p : α → Bool} {n : Nat} {xs : List α}
    (hfirst : ∀ (i : Nat) (x : α), xs[i]? = some x → (p x = true ↔ i < n)) :
    xs.countP p = min xs.length n := by
  induction xs generalizing n with
  | nil => rw [List.countP_nil, List.length_nil, Nat.zero_min]
  | cons x rest ih =>
      have hhead := hfirst 0 x rfl
      have hrest : rest.countP p = min rest.length (n - 1) := by
        refine ih fun i y hy => ?_
        rw [hfirst (i + 1) y hy]
        omega
      rw [List.countP_cons, List.length_cons, hrest]
      split
      next hpasses =>
        have hpos := hhead.mp hpasses
        omega
      next hfails =>
        have hzero := mt hhead.mpr hfails
        omega

/-- Of the checks of a key about which nothing is recorded, in a burst that fits
into one window, just the first to reach an enabled limiter are admitted, as many
as the limit allows: the order of their instants, the checks of other keys and
the cleanups in between play no part. What remains is counted down in the order
in which they arrive. -/
theorem burst_cut_at_limit (l : RateLimiter) (key : String) (requests : List Request)
    (hreachable : l.Reachable) (henabled : l.config.enabled = true)
    (hfresh : l.recorded key = []) (hburst : IsBurst l.window key requests) :
    let limit := l.config.limit.toNat
    let decided := (l.decisions requests).filter fun d => d.key = key
    decided.map Decision.request = requests.filter (Request.asksFor key) ∧
      decided.countP (fun d => d.answer.isAllowed) =
        min (requests.countP (Request.asksFor key)) limit ∧
      ∀ (i : Nat) (d : Decision), decided[i]? = some d →
        (i < limit →
          d.answer = .allowed (UInt32.ofNat (limit - i - 1)) l.config.limit) ∧
        (limit ≤ i → ∃ retryAfter, d.answer = .denied retryAfter l.config.limit) := by
  intro limit decided
  have hmap : decided.map Decision.request = requests.filter (Request.asksFor key) :=
    map_request_filter_decisions l key requests
  have hkept := hreachable.wellKept
  have hgathers : l.Gathers key [] requests := by
    refine ⟨hfresh, fun s hs => ?_⟩
    exact hburst (.check key s) (hs.resolve_left List.not_mem_nil) (decide_eq_true rfl)
  have hanswer : ∀ (i : Nat) (d : Decision), decided[i]? = some d →
      (i < limit → d.answer = .allowed (UInt32.ofNat (limit - i - 1)) l.config.limit) ∧
      (limit ≤ i → ∃ retryAfter, d.answer = .denied retryAfter l.config.limit) := by
    intro i d hd
    have hplace := hgathers.answer hkept henabled hd
    rwa [List.length_nil, Nat.zero_add] at hplace
  refine ⟨hmap, ?_, hanswer⟩
  have hlength : requests.countP (Request.asksFor key) = decided.length := by
    rw [List.countP_eq_length_filter, ← hmap, List.length_map]
  rw [hlength]
  apply countP_eq_min_of_getElem?
  intro i d hd
  obtain ⟨hroom, hfull⟩ := hanswer i d hd
  constructor
  · intro hallowed
    apply Nat.lt_of_not_le
    intro hle
    obtain ⟨retryAfter, hdenied⟩ := hfull hle
    rw [hdenied] at hallowed
    cases hallowed
  · intro hlt
    rw [hroom hlt]
    rfl

/-- Two per window of ten seconds. Of four checks within one window the first two
are admitted, though the second has an earlier instant than the first, and the
third an earlier one than both; another key and two cleanups come in between. -/
theorem burst_cut_at_limit_of_disorder :
    let l := (withWindow ⟨true, 2, 10, 60⟩ (Duration.ofSeconds 10)).after [.check "b" 20000000000]
    let requests : List Request :=
      [.cleanup 9000000000, .check "a" 9000000000, .check "b" 0, .check "a" 4000000000,
        .cleanup 9999999999, .check "a" 0, .check "a" 9999999999]
    let decided := (l.decisions requests).filter fun d => d.key = "a"
    l.Reachable ∧ l.config.enabled = true ∧ l.recorded "a" = [] ∧
      IsBurst l.window "a" requests ∧
      decided.map Decision.request = requests.filter (Request.asksFor "a") ∧
      decided.countP (fun d => d.answer.isAllowed) = 2 ∧
      decided.map (fun d => d.answer.isAllowed) = [true, true, false, false] ∧
      ∀ d, decided[1]? = some d → d.answer = .allowed 0 2 := by
  intro l requests decided
  have hreachable : l.Reachable := ⟨_, _, [.check "b" 20000000000], rfl⟩
  have hburst : IsBurst l.window "a" requests := by decide
  obtain ⟨hmap, hcount, hanswer⟩ :=
    burst_cut_at_limit l "a" requests hreachable rfl (by decide) hburst
  exact ⟨hreachable, rfl, by decide, hburst, hmap, hcount, by decide,
    fun d hd => (hanswer 1 d hd).1 (by decide)⟩

end Courier.RateLimiter
