import Courier.Proofs.RateLimiter.FullLog
import Courier.Proofs.Text.Marks

/-! # Users are on their own

All users share one limiter, and so they share its table and its cleanups. Yet
the key of a user on a channel is nobody else's, and as long as the clock does
not run backwards the answers for one key are those of the run in which nothing
but that key is asked for. So nobody's requests spend or give back what somebody
else may still send.
-/

namespace Courier

namespace Channel

theorem colon_notMem_name (c : Channel) : ':' ∉ c.name.toList := by
  cases c <;> decide

end Channel

namespace RateLimiter

/-- The last colon of a key ends the user, whatever the user is called. -/
theorem keyFor_eq_iff {user user' : String} {c c' : Channel} :
    keyFor user c = keyFor user' c' ↔ user = user' ∧ c = c' := by
  constructor
  · intro heq
    have hchars : user.toList ++ ':' :: c.name.toList = user'.toList ++ ':' :: c'.name.toList := by
      simpa [keyFor, String.toList_append] using congrArg String.toList heq
    obtain ⟨huser, hname⟩ :=
      eq_and_eq_of_notMem_right c.colon_notMem_name c'.colon_notMem_name hchars
    exact ⟨String.toList_inj.mp huser, Channel.name_injective (String.toList_inj.mp hname)⟩
  · rintro ⟨rfl, rfl⟩
    rfl

namespace Request

/-- The request asks for this key. -/
def asksFor (key : String) : Request → Bool
  | .check other _ => other = key
  | .cleanup _ => false

end Request

end RateLimiter

open RateLimiter (Decision Request admissionsOf)

/-! ## One key alone -/

namespace FullLog

variable {f g : FullLog} {key : String}

/-- The logs do not differ for this key. -/
structure AgreesAt (f g : FullLog) (key : String) : Prop where
  limit : f.limit = g.limit
  window : f.window = g.window
  admissions : admissionsOf key f.past = admissionsOf key g.past

theorem AgreesAt.answer (h : f.AgreesAt g key) (now : Instant) :
    f.answer key now = g.answer key now := by
  have hlive : f.live key now = g.live key now := by
    rw [live, live, h.window, h.admissions]
  have hwait : f.waitFor now = g.waitFor now := by
    funext admitted
    rw [waitFor.eq_def, waitFor.eq_def, h.window]
  rw [FullLog.answer, FullLog.answer, hlive, hwait, h.limit]

theorem AgreesAt.note (h : f.AgreesAt g key) (d : Decision) :
    (f.note d).AgreesAt (g.note d) key where
  limit := h.limit
  window := h.window
  admissions := by
    rw [FullLog.note, FullLog.note, admissionsOf, List.filterMap_append, ← admissionsOf,
      h.admissions, admissionsOf, ← List.filterMap_append]
    rfl

/-- What is decided for another key is nothing to this one. -/
theorem AgreesAt.note_left (h : f.AgreesAt g key) {d : Decision} (hother : d.key ≠ key) :
    (f.note d).AgreesAt g key where
  limit := h.limit
  window := h.window
  admissions := by
    have hnone : d.admission? key = none := if_neg fun hboth => hother hboth.1
    rw [← h.admissions, FullLog.note, admissionsOf, List.filterMap_append, List.filterMap_cons,
      hnone, List.filterMap_nil, List.append_nil, admissionsOf]

/-- The decisions on one key are the same where nothing else is asked. -/
theorem filter_decisions (h : f.AgreesAt g key) (requests : List Request) :
    (f.decisions requests).filter (fun d => d.key = key) =
      g.decisions (requests.filter (Request.asksFor key)) := by
  induction requests generalizing f g with
  | nil => rfl
  | cons r rest ih =>
      cases r with
      | cleanup now =>
          rw [List.filter_cons_of_neg (by simp [Request.asksFor]), decisions]
          exact ih h
      | check other now =>
          by_cases hkey : other = key
          · subst hkey
            rw [List.filter_cons_of_pos (by simp [Request.asksFor]), decisions, decisions,
              List.filter_cons_of_pos (by simp), ← h.answer now]
            exact congrArg (_ :: ·) (ih (h.note _))
          · rw [List.filter_cons_of_neg (by simp [Request.asksFor, hkey]), decisions,
              List.filter_cons_of_neg (by simp [hkey])]
            exact ih (h.note_left hkey)

end FullLog

namespace RateLimiter

variable {l : RateLimiter} {key : String}

/-- A limiter that is not enabled gives everybody the same answer. -/
theorem decisions_of_disabled (hdisabled : l.config.enabled = false) (requests : List Request) :
    l.decisions requests = requests.filterMap fun r =>
      match r with
      | .check key now => some ⟨key, now, .allowed 4294967295 0⟩
      | .cleanup _ => none := by
  induction requests generalizing l with
  | nil => rfl
  | cons r rest ih =>
      have hrest := ih (l := l.serve r) (by rwa [serve_config])
      cases r with
      | check key now => simp [decisions, decision?, check, hdisabled, hrest]
      | cleanup now => simp [decisions, decision?, hrest]

/-- Cleanups and what is asked for other keys do not show in the decisions on
this one. -/
theorem filter_decisions (config : RateLimit) (window : Duration) (key : String)
    {requests : List Request} (hforward : (requests.map Request.now).Pairwise (· ≤ ·)) :
    ((withWindow config window).decisions requests).filter (fun d => d.key = key) =
      (withWindow config window).decisions (requests.filter (Request.asksFor key)) := by
  cases henabled : config.enabled with
  | false =>
      rw [decisions_of_disabled henabled, decisions_of_disabled henabled, List.filter_filterMap,
        List.filterMap_filter]
      refine congrArg (List.filterMap · requests) (funext ?_)
      rintro (⟨other, now⟩ | now)
      · by_cases hkey : other = key <;> simp [Request.asksFor, hkey]
      · rfl
  | true =>
      -- With all that was decided before at hand there is nothing to clean up.
      have hlog : ∀ some : List Request, (some.map Request.now).Pairwise (· ≤ ·) →
          (withWindow config window).decisions some =
            FullLog.decisions ⟨config.limit, (withWindow config window).window, []⟩ some :=
        fun some hsome => decisions_eq_of_remembers henabled (withWindow_bounded config window)
          ⟨rfl, rfl⟩ hsome fun key r _ => Remembers.withWindow config window key r.now
      rw [hlog requests hforward,
        hlog _ (hforward.sublist ((List.filter_sublist (l := requests)).map Request.now)),
        FullLog.filter_decisions ⟨rfl, rfl, rfl⟩]

/-! ## Calls -/

/-- What callers ask of a limiter. -/
inductive Call where
  /-- Asks for a user on a channel, be it for the whole answer or only for whether
  it is an admission. -/
  | ask (user : String) (c : Channel) (now : Instant)
  | askKey (key : String) (now : Instant)
  | cleanup (now : Instant)
  deriving DecidableEq

namespace Call

def request : Call → Request
  | .ask user c now => .check (keyFor user c) now
  | .askKey key now => .check key now
  | .cleanup now => .cleanup now

def now (x : Call) : Instant :=
  x.request.now

/-- The call asks for this user on this channel. -/
def isFor (user : String) (c : Channel) : Call → Bool
  | .ask other c' _ => other = user && c' = c
  | .askKey key _ => key = keyFor user c
  | .cleanup _ => false

theorem asksFor_request (x : Call) (user : String) (c : Channel) :
    x.request.asksFor (keyFor user c) = x.isFor user c := by
  cases x with
  | ask other c' now => simp [request, Request.asksFor, isFor, keyFor_eq_iff]
  | askKey key now => rfl
  | cleanup now => rfl

end Call

/-- The instants at which a user is asked for on a channel, in order. -/
def instantsFor (user : String) (c : Channel) (calls : List Call) : List Instant :=
  (calls.filter (Call.isFor user c)).map Call.now

/-- The decisions on the calls for a user on a channel, in order. -/
def decisionsFor (user : String) (c : Channel) (l : RateLimiter) : List Call → List Decision
  | [] => []
  | x :: rest =>
      (if x.isFor user c then (l.decision? x.request).toList else []) ++
        decisionsFor user c (l.serve x.request) rest

variable {user : String} {c : Channel} {calls : List Call}

theorem decisionsFor_eq_filter (user : String) (c : Channel) (l : RateLimiter)
    (calls : List Call) :
    decisionsFor user c l calls =
      (l.decisions (calls.map Call.request)).filter (fun d => d.key = keyFor user c) := by
  induction calls generalizing l with
  | nil => rfl
  | cons x rest ih =>
      rw [decisionsFor, ih, List.map_cons, decisions, List.filter_append]
      refine congrArg (· ++ _) ?_
      cases x with
      | ask other c' now =>
          simp [Call.request, Call.isFor, decision?, keyFor_eq_iff, List.filter_cons]
      | askKey key now => simp [Call.request, Call.isFor, decision?, List.filter_cons]
      | cleanup now => rfl

theorem filter_asksFor_map_request (user : String) (c : Channel) (calls : List Call) :
    (calls.map Call.request).filter (Request.asksFor (keyFor user c)) =
      (instantsFor user c calls).map (Request.check (keyFor user c)) := by
  rw [List.filter_map, instantsFor, List.map_map]
  have hsame : Request.asksFor (keyFor user c) ∘ Call.request = Call.isFor user c :=
    funext fun x => x.asksFor_request user c
  rw [hsame]
  apply List.map_congr_left
  intro x hx
  have hfor := (List.mem_filter.mp hx).2
  cases x with
  | ask other c' now =>
      obtain ⟨rfl, rfl⟩ : other = user ∧ c' = c := by simpa [Call.isFor] using hfor
      rfl
  | askKey key now =>
      obtain rfl : key = keyFor user c := by simpa [Call.isFor] using hfor
      rfl
  | cleanup now => cases hfor

/-- The answers to a user on a channel depend on nothing but the instants at
which that user is asked for there. -/
theorem decisionsFor_eq (config : RateLimit) (window : Duration)
    (hforward : (calls.map Call.now).Pairwise (· ≤ ·)) :
    decisionsFor user c (withWindow config window) calls =
      (withWindow config window).decisions
        ((instantsFor user c calls).map (Request.check (keyFor user c))) := by
  have hforward' : ((calls.map Call.request).map Request.now).Pairwise (· ≤ ·) := by
    rwa [List.map_map]
  rw [decisionsFor_eq_filter, filter_decisions config window _ hforward',
    filter_asksFor_map_request]

theorem map_now_decisions_check (l : RateLimiter) (key : String) (instants : List Instant) :
    (l.decisions (instants.map (Request.check key))).map Decision.now = instants := by
  induction instants generalizing l with
  | nil => rfl
  | cons now rest ih => simp [decisions, decision?, ih]

/-- No two users or channels share a key, and runs of a limiter that ask for a
user on a channel at the same instants get the same answers there, whatever else
is asked in the one run or the other, and whenever it is cleaned up. -/
theorem keys_apart_and_answers_isolated (config : RateLimit) (window : Duration) :
    (∀ (user user' : String) (c c' : Channel),
      keyFor user c = keyFor user' c' → user = user' ∧ c = c') ∧
    ∀ (user : String) (c : Channel) (first second : List Call),
      (first.map Call.now).Pairwise (· ≤ ·) → (second.map Call.now).Pairwise (· ≤ ·) →
        instantsFor user c first = instantsFor user c second →
          (decisionsFor user c (withWindow config window) first).map Decision.now =
              instantsFor user c first ∧
            decisionsFor user c (withWindow config window) first =
              decisionsFor user c (withWindow config window) second := by
  refine ⟨fun user user' c c' heq => keyFor_eq_iff.mp heq, ?_⟩
  intro user c first second hfirst hsecond hsame
  rw [decisionsFor_eq config window hfirst, decisionsFor_eq config window hsecond]
  exact ⟨map_now_decisions_check .., by rw [hsame]⟩

/-- One per window of ten seconds. The user `a` shares the limiter with one who is
called like the key of `a`, and in the second run also with cleanups. -/
theorem keys_apart_and_answers_isolated_of_names :
    let config : RateLimit := ⟨true, 1, 10, 60⟩
    let first : List Call :=
      [.ask "a" .email 0, .ask "a:email" .email 1, .ask "a" .email 9999999999,
        .ask "a" .email 10000000000]
    let second : List Call :=
      [.askKey "a:email" 0, .cleanup 5, .ask "a" .sms 7, .ask "a" .email 9999999999,
        .cleanup 10000000000, .ask "a" .email 10000000000, .ask "a:email" .email 10000000000]
    let l := withWindow config config.window
    (first.map Call.now).Pairwise (· ≤ ·) ∧ (second.map Call.now).Pairwise (· ≤ ·) ∧
      instantsFor "a" .email first = instantsFor "a" .email second ∧
      (decisionsFor "a" .email l first).map (fun d => d.answer.isAllowed) = [true, false, true] ∧
      keyFor "a" .email ≠ keyFor "a:email" .email ∧
      decisionsFor "a" .email l first = decisionsFor "a" .email l second := by
  intro config first second l
  have hboth := keys_apart_and_answers_isolated config config.window
  refine ⟨by decide, by decide, by decide, by decide, ?_, ?_⟩
  · intro heq
    exact absurd (hboth.1 _ _ _ _ heq).1 (by decide)
  · exact (hboth.2 "a" .email first second (by decide) (by decide) (by decide)).2

end RateLimiter

end Courier
