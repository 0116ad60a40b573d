import Courier.RateLimiter

/-! # Runs of a limiter

What is asked of a limiter is a `Request`. The instants of the requests of a
run are arbitrary unless a statement says that they never run backwards.
-/

namespace Courier

namespace RateLimiter

inductive Request where
  | check (key : String) (now : Instant)
  | cleanup (now : Instant)
  deriving DecidableEq

namespace Request

def now : Request → Instant
  | .check _ now => now
  | .cleanup now => now

def isCheck : Request → Bool
  | .check _ _ => true
  | .cleanup _ => false

end Request

/-- A check with its answer. -/
structure Decision where
  key : String
  now : Instant
  answer : Admission
  deriving DecidableEq

def Decision.request (d : Decision) : Request :=
  .check d.key d.now

def serve (l : RateLimiter) : Request → RateLimiter
  | .check key now => (l.check key now).1
  | .cleanup now => l.cleanup now

def decision? (l : RateLimiter) : Request → Option Decision
  | .check key now => some ⟨key, now, (l.check key now).2⟩
  | .cleanup _ => none

/-- The limiter that a list of requests leaves behind. -/
def after (l : RateLimiter) (requests : List Request) : RateLimiter :=
  requests.foldl serve l

/-- The decisions of a run, the earliest first. -/
def decisions (l : RateLimiter) : List Request → List Decision
  | [] => []
  | r :: rest => (l.decision? r).toList ++ (l.serve r).decisions rest

variable {l : RateLimiter} {key : String} {now : Instant}

theorem map_request_decisions (l : RateLimiter) (requests : List Request) :
    (l.decisions requests).map Decision.request = requests.filter Request.isCheck := by
  induction requests generalizing l with
  | nil => rfl
  | cons r rest ih =>
      rw [decisions, List.map_append, ih]
      cases r <;> rfl

@[simp]
theorem serve_config (l : RateLimiter) (r : Request) : (l.serve r).config = l.config := by
  cases r with
  | check =>
      simp only [serve, check]
      split <;> rfl
  | cleanup => rfl

@[simp]
theorem serve_window (l : RateLimiter) (r : Request) : (l.serve r).window = l.window := by
  cases r with
  | check =>
      simp only [serve, check]
      split <;> rfl
  | cleanup => rfl

@[simp]
theorem serve_isLive (l : RateLimiter) (r : Request) : (l.serve r).isLive = l.isLive := by
  funext now admitted
  rw [isLive, isLive, serve_window]

theorem after_append (l : RateLimiter) (first second : List Request) :
    l.after (first ++ second) = (l.after first).after second :=
  List.foldl_append

@[simp]
theorem after_config (l : RateLimiter) (requests : List Request) :
    (l.after requests).config = l.config := by
  induction requests generalizing l with
  | nil => rfl
  | cons r rest ih => exact (ih (l.serve r)).trans (serve_config l r)

@[simp]
theorem after_window (l : RateLimiter) (requests : List Request) :
    (l.after requests).window = l.window := by
  induction requests generalizing l with
  | nil => rfl
  | cons r rest ih => exact (ih (l.serve r)).trans (serve_window l r)

@[simp]
theorem after_isLive (l : RateLimiter) (requests : List Request) :
    (l.after requests).isLive = l.isLive := by
  funext now admitted
  rw [isLive, isLive, after_window]

theorem check_snd (henabled : l.config.enabled = true) (key : String) (now : Instant) :
    (l.check key now).2 = l.answer now (l.prune now (l.recorded key)) := by
  rw [check, if_pos henabled]

/-- A check records what it admits, after what is left of the admissions. -/
theorem recorded_check_self (henabled : l.config.enabled = true) (key : String) (now : Instant) :
    (l.check key now).1.recorded key =
      l.prune now (l.recorded key) ++ if (l.check key now).2.isAllowed then [now] else [] := by
  rw [check_snd henabled, check, if_pos henabled]
  dsimp only
  rw [recorded, Table.getD, Table.get?_insert_self, Option.getD_some]
  split
  next => rfl
  next => rw [List.append_nil]

theorem recorded_check_of_ne {other : String} (hne : other ≠ key) :
    (l.check key now).1.recorded other = l.recorded other := by
  rw [check]
  split
  next => rw [recorded, Table.getD, Table.get?_insert, if_neg hne, recorded, Table.getD]
  next => rfl

/-- A cleanup keeps all the admissions of a key or none. -/
theorem recorded_cleanup (l : RateLimiter) (now : Instant) (key : String) :
    (l.cleanup now).recorded key =
      if l.isFresh now (l.recorded key) then l.recorded key else [] := by
  have hkept : (l.cleanup now).recorded key =
      ((l.admissions.get? key).filter (l.isFresh now)).getD [] := by
    rw [recorded, Table.getD, cleanup, Table.get?_filter]
  rw [hkept, recorded, Table.getD]
  cases l.admissions.get? key with
  | none => rfl
  | some admitted =>
      rw [Option.getD_some, Option.filter_some]
      split <;> rfl

theorem isAllowed_answer (l : RateLimiter) (now : Instant) (live : List Instant) :
    (l.answer now live).isAllowed = decide (UInt32.ofNat live.length < l.config.limit) := by
  by_cases hroom : UInt32.ofNat live.length < l.config.limit
  · simp only [answer, if_pos hroom, decide_eq_true hroom]
    rfl
  · simp only [answer, if_neg hroom, decide_eq_false hroom]
    cases live <;> rfl

/-- Up to the limit the number of admissions is counted exactly. -/
theorem isAllowed_answer_iff {live : List Instant} (hle : live.length ≤ l.config.limit.toNat) :
    (l.answer now live).isAllowed = true ↔ live.length < l.config.limit.toNat := by
  have hsmall : live.length < UInt32.size := Nat.lt_of_le_of_lt hle l.config.limit.toNat_lt
  rw [isAllowed_answer, decide_eq_true_iff, UInt32.lt_iff_toNat_lt,
    UInt32.toNat_ofNat_of_lt' hsmall]

/-- Up to the limit what remains is computed without overflow. -/
theorem sub_ofNat_sub_one {limit : UInt32} {n : Nat} (hlt : n < limit.toNat) :
    limit - UInt32.ofNat n - 1 = UInt32.ofNat (limit.toNat - n - 1) := by
  have hsmall : limit.toNat < UInt32.size := limit.toNat_lt
  have hn : (UInt32.ofNat n).toNat = n := UInt32.toNat_ofNat_of_lt' (Nat.lt_trans hlt hsmall)
  have hle : UInt32.ofNat n ≤ limit := by
    rw [UInt32.le_iff_toNat_le, hn]
    exact Nat.le_of_lt hlt
  have hdiff : (limit - UInt32.ofNat n).toNat = limit.toNat - n := by
    rw [UInt32.toNat_sub_of_le _ _ hle, hn]
  have hone : 1 ≤ limit - UInt32.ofNat n := by
    rw [UInt32.le_iff_toNat_le, hdiff]
    exact Nat.le_sub_of_add_le (by rw [Nat.add_comm]; exact hlt)
  rw [← UInt32.toNat_inj, UInt32.toNat_sub_of_le _ _ hone, hdiff,
    UInt32.toNat_ofNat_of_lt' (by omega), UInt32.toNat_one]

theorem answer_of_length_lt {live : List Instant} (hlt : live.length < l.config.limit.toNat)
    (now : Instant) :
    l.answer now live =
      .allowed (UInt32.ofNat (l.config.limit.toNat - live.length - 1)) l.config.limit := by
  have hallowed : (l.answer now live).isAllowed = true :=
    (isAllowed_answer_iff (Nat.le_of_lt hlt)).mpr hlt
  rw [isAllowed_answer, decide_eq_true_iff] at hallowed
  simp only [answer, if_pos hallowed, sub_ofNat_sub_one hlt]

theorem not_ofNat_lt_limit {n : Nat} (heq : n = l.config.limit.toNat) :
    ¬UInt32.ofNat n < l.config.limit := by
  rw [UInt32.lt_iff_toNat_lt, heq, UInt32.ofNat_toNat]
  exact Nat.lt_irrefl _

theorem exists_denied_of_length_eq {live : List Instant}
    (heq : live.length = l.config.limit.toNat) (now : Instant) :
    ∃ retryAfter, l.answer now live = .denied retryAfter l.config.limit := by
  simp only [answer, if_neg (not_ofNat_lt_limit heq)]
  cases live <;> exact ⟨_, rfl⟩

theorem length_prune_le (l : RateLimiter) (now : Instant) (admitted : List Instant) :
    (l.prune now admitted).length ≤ admitted.length :=
  (List.dropWhile_sublist _).length_le

/-- No key has more recorded admissions than the limit. -/
def Bounded (l : RateLimiter) : Prop :=
  ∀ key, (l.recorded key).length ≤ l.config.limit.toNat

theorem withWindow_bounded (config : RateLimit) (window : Duration) :
    (withWindow config window).Bounded :=
  fun _ => Nat.zero_le _

theorem Bounded.length_prune_le (hbounded : l.Bounded) (now : Instant) (key : String) :
    (l.prune now (l.recorded key)).length ≤ l.config.limit.toNat :=
  Nat.le_trans (l.length_prune_le now _) (hbounded key)

/-- A limiter stays within its limit whatever the instants are. -/
theorem Bounded.serve (henabled : l.config.enabled = true) (hbounded : l.Bounded) (r : Request) :
    (l.serve r).Bounded := by
  intro key
  rw [serve_config]
  cases r with
  | check other now =>
      by_cases hkey : key = other
      · subst hkey
        have hpruned := hbounded.length_prune_le now key
        rw [RateLimiter.serve, recorded_check_self henabled, check_snd henabled, List.length_append]
        split
        next hallowed =>
          have hroom := (isAllowed_answer_iff hpruned).mp hallowed
          rw [List.length_singleton]
          omega
        next => simpa using hpruned
      · rw [RateLimiter.serve, recorded_check_of_ne hkey]
        exact hbounded key
  | cleanup now =>
      rw [RateLimiter.serve, recorded_cleanup]
      split
      next => exact hbounded key
      next => exact Nat.zero_le _

end RateLimiter

end Courier
