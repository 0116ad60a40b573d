import Courier.Proofs.RateLimiter.History
import Courier.Proofs.RateLimiter.Recheck

/-! # Forgetting what no longer counts

Whatever a limiter forgets when it is asked has left the window. A limiter that
has forgotten such admissions, and has not gained any, decides everything that
is asked of it later as if nothing had happened.
-/

namespace Courier.RateLimiter

/-- From the first limiter to the second, a key has lost only admissions that
had left the window at `now`, and has gained these. -/
def Gains (l l' : RateLimiter) (key : String) (now : Instant) (new : List Instant) : Prop :=
  ∃ gone kept, l.recorded key = gone ++ kept ∧ (∀ a ∈ gone, l.isLive now a = false) ∧
    l'.recorded key = kept ++ new

/-- The second limiter is the first one less admissions that had left the
window at `now`. -/
structure Sheds (l l' : RateLimiter) (now : Instant) : Prop where
  config : l'.config = l.config
  window : l'.window = l.window
  gains_nil : ∀ key, l.Gains l' key now []

variable {l l' : RateLimiter} {key : String} {now later : Instant}

theorem gains_nil_of_recorded_eq (heq : l'.recorded key = l.recorded key) (now : Instant) :
    l.Gains l' key now [] :=
  ⟨[], l.recorded key, rfl, nofun, by rw [heq, List.append_nil]⟩

theorem Gains.mono {new : List Instant} (h : l.Gains l' key now new) (hle : now ≤ later) :
    l.Gains l' key later new := by
  obtain ⟨gone, kept, hrecorded, hgone, hrecorded'⟩ := h
  exact ⟨gone, kept, hrecorded, fun a ha => isLive_eq_false_of_le hle (hgone a ha), hrecorded'⟩

theorem check_of_disabled (hdisabled : ¬l.config.enabled = true) (key : String) (now : Instant) :
    l.check key now = (l, .allowed 4294967295 0) := by
  rw [check, if_neg hdisabled]

/-- A check that admits adds the one admission; a refusal adds none. -/
theorem gains_check (l : RateLimiter) (key : String) (now : Instant) :
    l.Gains (l.check key now).1 key now
      (if l.config.enabled = true ∧ l.admits key now = true then [now] else []) := by
  by_cases henabled : l.config.enabled = true
  · refine ⟨(l.recorded key).takeWhile fun a => !l.isLive now a, l.live key now, ?_, ?_, ?_⟩
    · exact List.takeWhile_append_dropWhile.symm
    · intro a ha
      simpa using List.all_eq_true.mp List.all_takeWhile a ha
    · rw [recorded_check_self henabled]
      simp only [henabled, true_and]
      rfl
  · rw [if_neg fun h => henabled h.1, check_of_disabled henabled]
    exact gains_nil_of_recorded_eq rfl now

namespace Sheds

theorem exists_gone (h : l.Sheds l' now) (key : String) :
    ∃ gone, l.recorded key = gone ++ l'.recorded key ∧ ∀ a ∈ gone, l.isLive now a = false := by
  obtain ⟨gone, kept, hrecorded, hgone, hrecorded'⟩ := h.gains_nil key
  rw [List.append_nil] at hrecorded'
  exact ⟨gone, hrecorded' ▸ hrecorded, hgone⟩

theorem isLive_eq (h : l.Sheds l' now) : l'.isLive = l.isLive := by
  funext t a
  rw [isLive, isLive, h.window]

theorem prune_eq (h : l.Sheds l' now) (hle : now ≤ later) (key : String) :
    l'.prune later (l'.recorded key) = l.prune later (l.recorded key) := by
  obtain ⟨gone, hrecorded, hgone⟩ := h.exists_gone key
  have hdead : ∀ a ∈ gone, (!l.isLive later a) = true := by
    intro a ha
    rw [isLive_eq_false_of_le hle (hgone a ha)]
    rfl
  rw [prune, prune, h.isLive_eq, hrecorded, List.dropWhile_append_of_pos hdead]

theorem check_snd (h : l.Sheds l' now) (hle : now ≤ later) (key : String) :
    (l'.check key later).2 = (l.check key later).2 := by
  by_cases henabled : l.config.enabled = true
  · have henabled' : l'.config.enabled = true := h.config ▸ henabled
    rw [RateLimiter.check_snd henabled, RateLimiter.check_snd henabled', h.prune_eq hle]
    unfold answer
    rw [h.config, h.window]
  · have hdisabled' : ¬l'.config.enabled = true := h.config ▸ henabled
    rw [check_of_disabled henabled, check_of_disabled hdisabled']

theorem recorded_check_self (h : l.Sheds l' now) (hle : now ≤ later) (key : String) :
    (l.check key later).1.Gains (l'.check key later).1 key later [] := by
  by_cases henabled : l.config.enabled = true
  · have henabled' : l'.config.enabled = true := h.config ▸ henabled
    apply gains_nil_of_recorded_eq
    rw [RateLimiter.recorded_check_self henabled, RateLimiter.recorded_check_self henabled',
      h.check_snd hle, h.prune_eq hle]
  · have hdisabled' : ¬l'.config.enabled = true := h.config ▸ henabled
    rw [check_of_disabled henabled, check_of_disabled hdisabled']
    exact (h.gains_nil key).mono hle

/-- A cleanup drops a key from both limiters or from none, unless there is only
something dead left to drop. -/
theorem gains_cleanup (h : l.Sheds l' now) (hle : now ≤ later) (key : String) :
    (l.cleanup later).Gains (l'.cleanup later) key later [] := by
  obtain ⟨gone, hrecorded, hgone⟩ := h.exists_gone key
  have hdead : ∀ a ∈ gone, l.isLive later a = false :=
    fun a ha => isLive_eq_false_of_le hle (hgone a ha)
  have hfresh' : l'.isFresh later (l'.recorded key) = l.isFresh later (l'.recorded key) := by
    rw [isFresh, isFresh, h.isLive_eq]
  cases hleft : l'.recorded key with
  | nil =>
      -- What the first limiter still has is dead.
      have hstale : l.isFresh later gone = false := by
        rw [isFresh]
        split
        next latest hlatest => exact hdead latest (List.mem_of_getLast? hlatest)
        next => rfl
      rw [hleft, List.append_nil] at hrecorded
      apply gains_nil_of_recorded_eq
      rw [recorded_cleanup, recorded_cleanup, hleft, hrecorded, hstale]
      exact ite_self _
  | cons a rest =>
      -- The latest admission is the same.
      have hlatest : l.isFresh later (l.recorded key) = l.isFresh later (l'.recorded key) := by
        rw [hrecorded, hleft, isFresh, isFresh, List.getLast?_append, List.getLast?_cons,
          Option.some_or]
      cases hfresh : l.isFresh later (l'.recorded key) with
      | true =>
          refine ⟨gone, l'.recorded key, ?_, hdead, ?_⟩
          · rw [recorded_cleanup, if_pos (hlatest.trans hfresh), hrecorded]
          · rw [recorded_cleanup, if_pos (hfresh'.trans hfresh), List.append_nil]
      | false =>
          apply gains_nil_of_recorded_eq
          rw [recorded_cleanup, recorded_cleanup, hfresh', hlatest, hfresh]
          rfl

theorem serve (h : l.Sheds l' now) {r : Request} (hle : now ≤ r.now) :
    (l.serve r).Sheds (l'.serve r) r.now where
  config := by rw [serve_config, serve_config, h.config]
  window := by rw [serve_window, serve_window, h.window]
  gains_nil := by
    intro key
    cases r with
    | check other later =>
        by_cases hkey : key = other
        · subst hkey
          exact h.recorded_check_self hle key
        · obtain ⟨gone, kept, hrecorded, hgone, hrecorded'⟩ := (h.gains_nil key).mono hle
          refine ⟨gone, kept, ?_, ?_, ?_⟩
          · rw [RateLimiter.serve, recorded_check_of_ne hkey, hrecorded]
          · rwa [serve_isLive]
          · rw [RateLimiter.serve, recorded_check_of_ne hkey, hrecorded']
    | cleanup later => exact h.gains_cleanup hle key

theorem decision?_eq (h : l.Sheds l' now) {r : Request} (hle : now ≤ r.now) :
    l'.decision? r = l.decision? r := by
  cases r with
  | check key later =>
      have hanswer : (l'.check key later).2 = (l.check key later).2 := h.check_snd hle key
      rw [decision?, decision?, hanswer]
  | cleanup => rfl

/-- Nothing that is asked from now on tells the two apart. -/
theorem decisions_eq {requests : List Request} (h : l.Sheds l' now)
    (hforward : (requests.map Request.now).Pairwise (· ≤ ·))
    (hlater : ∀ r ∈ requests, now ≤ r.now) :
    l'.decisions requests = l.decisions requests := by
  induction requests generalizing l l' now with
  | nil => rfl
  | cons r rest ih =>
      obtain ⟨hnext, hrest⟩ := List.pairwise_cons.mp hforward
      have hle := hlater r List.mem_cons_self
      rw [decisions, decisions, h.decision?_eq hle]
      congr 1
      exact ih (h.serve hle) hrest fun q hq => hnext _ (List.mem_map_of_mem hq)

end Sheds

end Courier.RateLimiter
