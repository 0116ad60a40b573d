import Courier.Proofs.RateLimiter.Run

/-! # Asking twice

What a limiter answers for a key depends on nothing that is recorded for
others, so that the keys of a request are each on their own. An admission that
comes to nothing is not taken back: who asks again at the same instant needs
room for a second one.
-/

namespace Courier.RateLimiter

variable {l l' : RateLimiter} {key other : String} {now later : Instant}

/-- Whether a key is admitted. -/
def admits (l : RateLimiter) (key : String) (now : Instant) : Bool :=
  (l.check key now).2.isAllowed

/-- The admissions of a key that count at `now`. -/
def live (l : RateLimiter) (key : String) (now : Instant) : List Instant :=
  l.prune now (l.recorded key)

/-- There is room for two more admissions of the key. -/
def hasRoomForTwo (l : RateLimiter) (key : String) (now : Instant) : Bool :=
  !l.config.enabled || decide ((l.live key now).length + 2 ≤ l.config.limit.toNat)

/-- The limiters do not differ for this key. -/
structure AgreesAt (l l' : RateLimiter) (key : String) : Prop where
  config : l.config = l'.config
  window : l.window = l'.window
  recorded : l.recorded key = l'.recorded key

namespace AgreesAt

theorem refl (l : RateLimiter) (key : String) : l.AgreesAt l key :=
  ⟨rfl, rfl, rfl⟩

theorem trans {l'' : RateLimiter} (first : l.AgreesAt l' key) (second : l'.AgreesAt l'' key) :
    l.AgreesAt l'' key :=
  ⟨first.config.trans second.config, first.window.trans second.window,
    first.recorded.trans second.recorded⟩

theorem prune (hagrees : l.AgreesAt l' key) (now : Instant) (admitted : List Instant) :
    l.prune now admitted = l'.prune now admitted := by
  unfold RateLimiter.prune isLive
  rw [hagrees.window]

theorem answer (hagrees : l.AgreesAt l' key) (now : Instant) (live : List Instant) :
    l.answer now live = l'.answer now live := by
  unfold RateLimiter.answer
  rw [hagrees.config, hagrees.window]

theorem check_snd (hagrees : l.AgreesAt l' key) (now : Instant) :
    (l.check key now).2 = (l'.check key now).2 := by
  by_cases henabled : l.config.enabled = true
  · have henabled' : l'.config.enabled = true := hagrees.config ▸ henabled
    rw [RateLimiter.check_snd henabled, RateLimiter.check_snd henabled', hagrees.recorded,
      hagrees.prune, hagrees.answer]
  · have hdisabled' : ¬l'.config.enabled = true := hagrees.config ▸ henabled
    rw [RateLimiter.check, if_neg henabled, RateLimiter.check, if_neg hdisabled']

theorem admits (hagrees : l.AgreesAt l' key) (now : Instant) :
    l.admits key now = l'.admits key now := by
  rw [RateLimiter.admits, RateLimiter.admits, hagrees.check_snd]

/-- Asking both for the key leaves them the same. -/
theorem check (hagrees : l.AgreesAt l' key) (now : Instant) :
    (l.check key now).1.AgreesAt (l'.check key now).1 key where
  config := by
    rw [← serve, ← serve, serve_config, serve_config, hagrees.config]
  window := by
    rw [← serve, ← serve, serve_window, serve_window, hagrees.window]
  recorded := by
    by_cases henabled : l.config.enabled = true
    · have henabled' : l'.config.enabled = true := hagrees.config ▸ henabled
      rw [recorded_check_self henabled, recorded_check_self henabled', hagrees.check_snd,
        hagrees.recorded, hagrees.prune]
    · have hdisabled' : ¬l'.config.enabled = true := hagrees.config ▸ henabled
      rw [RateLimiter.check, if_neg henabled, RateLimiter.check, if_neg hdisabled']
      exact hagrees.recorded

end AgreesAt

/-- Asking for one key changes nothing for another. -/
theorem agreesAt_check_of_ne (hne : other ≠ key) (now : Instant) :
    (l.check key now).1.AgreesAt l other :=
  ⟨serve_config l (.check key now), serve_window l (.check key now), recorded_check_of_ne hne⟩

/-! ## The limit at every time -/

/-- What every limiter keeps, whatever the instants are. -/
structure WellKept (l : RateLimiter) : Prop where
  bounded : l.Bounded
  window_pos : 0 < l.window.nanos

theorem withWindow_wellKept (config : RateLimit) (window : Duration) :
    (withWindow config window).WellKept where
  bounded := withWindow_bounded config window
  window_pos := by
    unfold withWindow
    dsimp only
    split
    next => decide
    next hnonzero => exact Nat.pos_of_ne_zero fun hzero => hnonzero (decide_eq_true hzero)

theorem WellKept.serve (hkept : l.WellKept) (r : Request) : (l.serve r).WellKept where
  bounded := by
    by_cases henabled : l.config.enabled = true
    · exact hkept.bounded.serve henabled r
    · cases r with
      | check key now =>
          rw [RateLimiter.serve, RateLimiter.check, if_neg henabled]
          exact hkept.bounded
      | cleanup now =>
          intro key
          rw [RateLimiter.serve, recorded_cleanup]
          split
          next => exact hkept.bounded key
          next => exact Nat.zero_le _
  window_pos := by
    rw [serve_window]
    exact hkept.window_pos

/-- The limiter came about by asking a new one. -/
def Reachable (l : RateLimiter) : Prop :=
  ∃ config window requests, l = List.foldl serve (withWindow config window) requests

theorem withWindow_reachable (config : RateLimit) (window : Duration) :
    (withWindow config window).Reachable :=
  ⟨config, window, [], rfl⟩

theorem Reachable.serve (hreachable : l.Reachable) (r : Request) : (l.serve r).Reachable := by
  obtain ⟨config, window, requests, rfl⟩ := hreachable
  exact ⟨config, window, requests ++ [r], by rw [List.foldl_append]; rfl⟩

theorem WellKept.after (hkept : l.WellKept) (requests : List Request) :
    (l.after requests).WellKept := by
  induction requests generalizing l with
  | nil => exact hkept
  | cons r rest ih => exact ih (hkept.serve r)

theorem Reachable.wellKept (hreachable : l.Reachable) : l.WellKept := by
  obtain ⟨config, window, requests, rfl⟩ := hreachable
  exact (withWindow_wellKept config window).after requests

/-! ## Asking again -/

theorem serve_prune (l : RateLimiter) (r : Request) : (l.serve r).prune = l.prune := by
  funext now admitted
  rw [prune, prune, serve_isLive]

theorem prune_eq_self {a : Instant} (hlive : l.isLive now a = true) (rest : List Instant) :
    l.prune now (a :: rest) = a :: rest := by
  rw [prune, List.dropWhile_cons_of_neg (by simp [hlive])]

/-- In front of the live admissions stands one in the window. -/
theorem live_eq_nil_or (l : RateLimiter) (key : String) (now : Instant) :
    l.live key now = [] ∨
      ∃ a rest, l.live key now = a :: rest ∧ l.isLive now a = true := by
  have hhead := List.head?_dropWhile_not (fun a => !l.isLive now a) (l.recorded key)
  rw [← prune, ← live] at hhead
  cases hlive : l.live key now with
  | nil => exact .inl rfl
  | cons a rest =>
      rw [hlive, List.head?_cons] at hhead
      exact .inr ⟨a, rest, rfl, by simpa using hhead⟩

/-- Live admissions stay, and with them all that comes after. -/
theorem prune_live_append {more : List Instant} (hmore : l.prune now more = more) (key : String) :
    l.prune now (l.live key now ++ more) = l.live key now ++ more := by
  rcases l.live_eq_nil_or key now with hnil | ⟨a, rest, hcons, hlive⟩
  · rw [hnil]
    exact hmore
  · rw [hcons]
    exact prune_eq_self hlive (rest ++ more)

theorem isLive_self (hkept : l.WellKept) (now : Instant) : l.isLive now now = true := by
  rw [isLive, decide_eq_true_iff, Instant.since, Int.sub_self]
  exact hkept.window_pos

theorem admits_iff (hkept : l.WellKept) (henabled : l.config.enabled = true) (key : String)
    (now : Instant) :
    l.admits key now = true ↔ (l.live key now).length < l.config.limit.toNat := by
  rw [admits, check_snd henabled]
  exact isAllowed_answer_iff (hkept.bounded.length_prune_le now key)

/-- The admissions that count right after a check. -/
theorem live_check (hkept : l.WellKept) (henabled : l.config.enabled = true) (key : String)
    (now : Instant) :
    (l.check key now).1.live key now =
      l.live key now ++ if l.admits key now then [now] else [] := by
  have hrecorded : (l.check key now).1.recorded key =
      l.live key now ++ if l.admits key now then [now] else [] :=
    recorded_check_self henabled key now
  rw [live, hrecorded, ← serve, serve_prune]
  apply prune_live_append
  split
  next => exact prune_eq_self (isLive_self hkept now) []
  next => rfl

/-- What was admitted is admitted again if there was room for two; what was
refused is refused again. -/
theorem admits_check (hkept : l.WellKept) (key : String) (now : Instant) :
    (l.check key now).1.admits key now = (l.admits key now && l.hasRoomForTwo key now) := by
  by_cases henabled : l.config.enabled = true
  · have hkept' : (l.check key now).1.WellKept := hkept.serve (.check key now)
    have hconfig : (l.check key now).1.config = l.config := serve_config l (.check key now)
    have hfirst := admits_iff hkept henabled key now
    have hagain := admits_iff hkept' (hconfig ▸ henabled) key now
    rw [live_check hkept henabled, hconfig, List.length_append] at hagain
    rw [Bool.eq_iff_iff, Bool.and_eq_true, hagain]
    -- What the check found is one more afterwards just if it admitted.
    cases hadmits : l.admits key now with
    | true => simp [hasRoomForTwo, henabled, Nat.lt_iff_add_one_le, Nat.add_assoc]
    | false =>
        have hfull : ¬(l.live key now).length < l.config.limit.toNat := by
          rw [← hfirst, hadmits]
          exact Bool.false_ne_true
        simpa using hfull
  · have hcheck : l.check key now = (l, .allowed 4294967295 0) := by
      rw [check, if_neg henabled]
    simp [hcheck, admits, hasRoomForTwo, Admission.isAllowed, henabled]

end Courier.RateLimiter
