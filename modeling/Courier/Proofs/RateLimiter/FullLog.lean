import Courier.Proofs.RateLimiter.Window

/-! # A limiter that forgets nothing

The plainest limiter there could be keeps every decision for good, never cleans
up, and counts for each check the admissions in the window anew. As long as the
clock does not run backwards, no answer tells it from the limiter that prunes
what it has recorded and drops stale keys.
-/

namespace Courier

open RateLimiter (Decision Request admissionsOf)

/-- All decisions so far, the earliest first. -/
structure FullLog where
  limit : UInt32
  window : Duration
  past : List Decision

namespace FullLog

/-- The admissions of a key that happened less than one window before `now`. -/
def live (f : FullLog) (key : String) (now : Instant) : List Instant :=
  (admissionsOf key f.past).filter fun a => now - a < f.window.nanos

/-- The time until the first of these admissions leaves the window. -/
def waitFor (f : FullLog) (now : Instant) (live : List Instant) : Duration :=
  match live with
  | [] => Duration.zero
  | first :: _ => f.window.less (now - first).toNat

def answer (f : FullLog) (key : String) (now : Instant) : Admission :=
  let live := f.live key now
  if live.length < f.limit.toNat then
    .allowed (UInt32.ofNat (f.limit.toNat - live.length - 1)) f.limit
  else .denied (f.waitFor now live) f.limit

def note (f : FullLog) (d : Decision) : FullLog :=
  { f with past := f.past ++ [d] }

/-- The decisions on a list of requests. There is nothing to clean up. -/
def decisions (f : FullLog) : List Request → List Decision
  | [] => []
  | .check key now :: rest =>
      let d : Decision := ⟨key, now, f.answer key now⟩
      d :: (f.note d).decisions rest
  | .cleanup _ :: rest => f.decisions rest

/-- How many checks of a key were allowed less than one window before `now`. -/
def liveCount (length : Nat) (past : List Decision) (key : String) (now : Instant) : Nat :=
  past.countP fun d => d.key = key ∧ d.answer.isAllowed = true ∧ now - d.now < length

variable {f : FullLog} {key : String} {now : Instant}

theorem length_live (f : FullLog) (key : String) (now : Instant) :
    (f.live key now).length = liveCount f.window.nanos f.past key now := by
  rw [live, ← List.countP_eq_length_filter, RateLimiter.countP_admissionsOf]
  simp only [decide_eq_true_eq]
  rfl

/-- Each decision is the answer to what came before it. -/
theorem answer_of_decisions_eq {requests : List Request} {before after : List Decision}
    {d : Decision} (hlog : f.decisions requests = before ++ d :: after) :
    d.answer = { f with past := f.past ++ before }.answer d.key d.now := by
  induction requests generalizing f before with
  | nil => exact absurd hlog (by simp [decisions])
  | cons r rest ih =>
      cases r with
      | cleanup => exact ih hlog
      | check key now =>
          rw [decisions] at hlog
          cases before with
          | nil =>
              obtain ⟨rfl, -⟩ := List.cons.inj hlog
              rw [List.append_nil]
          | cons first before =>
              obtain ⟨rfl, hrest⟩ := List.cons.inj hlog
              rw [ih hrest, note, List.append_assoc]
              rfl

end FullLog

namespace RateLimiter

variable {l : RateLimiter} {f : FullLog} {key : String} {past : List Instant} {now : Instant}

/-- The full log has the same limit and window. -/
structure IsKeptBy (l : RateLimiter) (f : FullLog) : Prop where
  limit : f.limit = l.config.limit
  window : f.window = l.window

theorem IsKeptBy.serve (h : l.IsKeptBy f) (r : Request) : (l.serve r).IsKeptBy f :=
  ⟨by rw [serve_config, h.limit], by rw [serve_window, h.window]⟩

/-- With no more live admissions than the limit, both give one answer. -/
theorem answer_eq_of_isKeptBy (h : l.IsKeptBy f)
    (hle : (f.live key now).length ≤ l.config.limit.toNat) :
    l.answer now (f.live key now) = f.answer key now := by
  unfold FullLog.answer
  dsimp only
  rw [h.limit]
  by_cases hlt : (f.live key now).length < l.config.limit.toNat
  · rw [if_pos hlt, answer_of_length_lt hlt]
  · have hrefused : ¬(l.answer now (f.live key now)).isAllowed = true :=
      mt (isAllowed_answer_iff hle).mp hlt
    rw [isAllowed_answer, decide_eq_true_iff] at hrefused
    rw [if_neg hlt, answer.eq_def, FullLog.waitFor.eq_def, h.window]
    dsimp only
    rw [if_neg hrefused]
    cases f.live key now <;> rfl

/-- What counts is the same for both: of the admissions so far, those in the
window. -/
theorem Remembers.filter_isLive (h : Remembers l key (admissionsOf key f.past) now)
    (hwindow : f.window = l.window) :
    (admissionsOf key f.past).filter (l.isLive now) = f.live key now := by
  apply List.filter_congr
  intro a ha
  have hnonneg : 0 ≤ now - a := Int.sub_nonneg_of_le (h.le_now a ha)
  rw [Bool.eq_iff_iff, isLive_iff, decide_eq_true_iff, hwindow, Int.toNat_lt hnonneg]

theorem Remembers.answer_check_eq (h : Remembers l key (admissionsOf key f.past) now)
    (hkept : l.IsKeptBy f) (henabled : l.config.enabled = true) (hbounded : l.Bounded) :
    (l.check key now).2 = f.answer key now := by
  have hle := hbounded.length_prune_le now key
  rw [h.prune_recorded, h.filter_isLive hkept.window] at hle
  rw [h.answer_check henabled, h.filter_isLive hkept.window, answer_eq_of_isKeptBy hkept hle]

theorem admissionsOf_append_singleton (key other : String) (past : List Decision) :
    admissionsOf key (past ++ [⟨other, now, (l.check other now).2⟩]) =
      admissionsOf key past ++ (l.admission? key (.check other now)).toList := by
  rw [admissionsOf, List.filterMap_append, admission?, decision?, Option.bind_some]
  cases hadmission : Decision.admission? key ⟨other, now, (l.check other now).2⟩ <;>
    simp [admissionsOf, hadmission]

/-- Both decide alike from now on, if what the one remembers of each key is what
matters of the log of the other. -/
theorem decisions_eq_of_remembers {requests : List Request} (henabled : l.config.enabled = true)
    (hbounded : l.Bounded) (hkept : l.IsKeptBy f)
    (hforward : (requests.map Request.now).Pairwise (· ≤ ·))
    (h : ∀ key, ∀ r ∈ requests, Remembers l key (admissionsOf key f.past) r.now) :
    l.decisions requests = f.decisions requests := by
  induction requests generalizing l f with
  | nil => rfl
  | cons r rest ih =>
      obtain ⟨hnext, hrest⟩ := List.pairwise_cons.mp hforward
      have henabled' : (l.serve r).config.enabled = true := by rwa [serve_config]
      have hserved : ∀ key, ∀ later ∈ rest,
          Remembers (l.serve r) key (admissionsOf key f.past ++ (l.admission? key r).toList)
            later.now := by
        intro key later hlater
        have hnow := h key r List.mem_cons_self
        exact (hnow.serve henabled).mono (hnext _ (List.mem_map_of_mem hlater))
      cases r with
      | check key now =>
          have hanswer : (l.check key now).2 = f.answer key now :=
            (h key _ List.mem_cons_self).answer_check_eq hkept henabled hbounded
          rw [decisions, decision?, Option.toList_some, FullLog.decisions, ← hanswer]
          refine congrArg (_ :: ·) (ih henabled' (hbounded.serve henabled _) ?_ hrest ?_)
          · exact ⟨(hkept.serve _).limit, (hkept.serve _).window⟩
          · intro other later hlater
            rw [FullLog.note, admissionsOf_append_singleton]
            exact hserved other later hlater
      | cleanup now =>
          rw [decisions, decision?, Option.toList_none, List.nil_append, FullLog.decisions]
          refine ih henabled' (hbounded.serve henabled _) (hkept.serve _) hrest ?_
          intro other later hlater
          rw [← List.append_nil (admissionsOf other f.past)]
          exact hserved other later hlater

/-- As long as the clock does not run backwards, an enabled limiter answers every
check as if it had forgotten nothing: with what is left of the limit after the
earlier admissions of the key in the window, and with a refusal if nothing is. -/
theorem decisions_eq_fullLog (config : RateLimit) (window : Duration) (requests : List Request)
    (henabled : config.enabled = true)
    (hforward : (requests.map Request.now).Pairwise (· ≤ ·)) :
    let raised := if window.isZero then Duration.ofSeconds 1 else window
    let log := (withWindow config window).decisions requests
    log.map Decision.request = requests.filter Request.isCheck ∧
      log = FullLog.decisions ⟨config.limit, raised, []⟩ requests ∧
      ∀ (before after : List Decision) (d : Decision), log = before ++ d :: after →
        let live := FullLog.liveCount raised.nanos before d.key d.now
        (live < config.limit.toNat →
          d.answer = .allowed (UInt32.ofNat (config.limit.toNat - live - 1)) config.limit) ∧
        (config.limit.toNat ≤ live → ∃ retryAfter, d.answer = .denied retryAfter config.limit) := by
  intro raised log
  have hsame : log = FullLog.decisions ⟨config.limit, raised, []⟩ requests :=
    decisions_eq_of_remembers henabled (withWindow_bounded config window) ⟨rfl, rfl⟩ hforward
      fun key r _ => Remembers.withWindow config window key r.now
  refine ⟨map_request_decisions _ requests, hsame, ?_⟩
  intro before after d hlog live
  have hanswer := FullLog.answer_of_decisions_eq (hsame.symm.trans hlog)
  rw [List.nil_append, FullLog.answer, FullLog.length_live] at hanswer
  constructor
  · intro hroom
    rw [hanswer, if_pos hroom]
  · intro hfull
    rw [hanswer, if_neg (Nat.not_lt.mpr hfull)]
    exact ⟨_, rfl⟩

/-- Two in each window of one second. Between the checks of one key come another
key, a cleanup that keeps the key and one that drops it. -/
theorem decisions_eq_fullLog_of_limit_two :
    let config : RateLimit := ⟨true, 2, 0, 60⟩
    let requests : List Request :=
      [.check "a" 0, .check "b" 0, .check "a" 400000000, .cleanup 500000000,
        .check "a" 999999999, .check "a" 1000000000, .cleanup 3000000000, .check "a" 3000000000]
    let raised := Duration.ofSeconds 1
    let log := (withWindow config Duration.zero).decisions requests
    config.enabled = true ∧ (requests.map Request.now).Pairwise (· ≤ ·) ∧
      log.map (·.answer) =
        [.allowed 1 2, .allowed 1 2, .allowed 0 2, .denied ⟨1, by decide⟩ 2, .allowed 0 2,
          .allowed 1 2] ∧
      log.map Decision.request = requests.filter Request.isCheck ∧
      log = FullLog.decisions ⟨config.limit, raised, []⟩ requests ∧
      ∀ (before after : List Decision) (d : Decision), log = before ++ d :: after →
        let live := FullLog.liveCount raised.nanos before d.key d.now
        (live < config.limit.toNat →
          d.answer = .allowed (UInt32.ofNat (config.limit.toNat - live - 1)) config.limit) ∧
        (config.limit.toNat ≤ live → ∃ retryAfter, d.answer = .denied retryAfter config.limit) :=
  ⟨rfl, by decide, by decide, decisions_eq_fullLog _ Duration.zero _ rfl (by decide)⟩

end RateLimiter

end Courier
