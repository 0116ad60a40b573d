import Courier.Proofs.Intake.Run
import Courier.Proofs.RateLimiter.Recheck

/-! # Which channels are admitted

The limiter is asked for one channel after the other. The keys of a user differ
from channel to channel, so that each channel is admitted or refused as if it
were the only one.
-/

namespace Courier.Intake

variable {s : Intake} {user : String} {now : Instant} {c : Channel} {channels : List Channel}

/-! ## One request -/

theorem admitAll_cons (s : Intake) (user : String) (now : Instant) (c : Channel)
    (rest : List Channel) :
    (s.admitAll user now (c :: rest)).2 =
      if (s.admitOne user c now).2 then c :: ((s.admitOne user c now).1.admitAll user now rest).2
      else ((s.admitOne user c now).1.admitAll user now rest).2 :=
  rfl

theorem admitAll_cons_fst (s : Intake) (user : String) (now : Instant) (c : Channel)
    (rest : List Channel) :
    (s.admitAll user now (c :: rest)).1 = ((s.admitOne user c now).1.admitAll user now rest).1 :=
  rfl

theorem agreesAt_admitOne {other : Channel} (hne : c ≠ other) :
    (s.admitOne user other now).1.limiter.AgreesAt s.limiter (RateLimiter.keyFor user c) := by
  rw [admitOne_limiter]
  exact RateLimiter.agreesAt_check_of_ne (fun heq => hne (RateLimiter.keyFor_injective heq)) now

theorem agreesAt_admitAll_of_notMem (hnot : c ∉ channels) :
    (s.admitAll user now channels).1.limiter.AgreesAt s.limiter (RateLimiter.keyFor user c) := by
  induction channels generalizing s with
  | nil => exact .refl _ _
  | cons other rest ih =>
      rw [List.mem_cons, not_or] at hnot
      rw [admitAll_cons_fst]
      exact (ih hnot.2).trans (agreesAt_admitOne hnot.1)

/-- To the key of a channel it is as if only this channel had been asked for. -/
theorem agreesAt_admitAll (hnodup : channels.Nodup) (hmem : c ∈ channels) :
    (s.admitAll user now channels).1.limiter.AgreesAt
      (s.limiter.check (RateLimiter.keyFor user c) now).1 (RateLimiter.keyFor user c) := by
  induction channels generalizing s with
  | nil => cases hmem
  | cons other rest ih =>
      obtain ⟨hnot, hrest⟩ := List.nodup_cons.mp hnodup
      rw [admitAll_cons_fst]
      rcases List.mem_cons.mp hmem with rfl | hmem
      · -- The channel is the first, and its key is not asked for again.
        rw [← admitOne_limiter]
        exact agreesAt_admitAll_of_notMem hnot
      · -- The first channel leaves the key alone.
        have hne : c ≠ other := fun heq => hnot (heq ▸ hmem)
        exact (ih hrest hmem).trans ((agreesAt_admitOne hne).check now)

theorem admitAll_snd (hnodup : channels.Nodup) :
    (s.admitAll user now channels).2 =
      channels.filter fun c => s.limiter.admits (RateLimiter.keyFor user c) now := by
  induction channels generalizing s with
  | nil => rfl
  | cons c rest ih =>
      obtain ⟨hnot, hrest⟩ := List.nodup_cons.mp hnodup
      have hadmits : ∀ other ∈ rest,
          (s.admitOne user c now).1.limiter.admits (RateLimiter.keyFor user other) now =
            s.limiter.admits (RateLimiter.keyFor user other) now := by
        intro other hother
        have hne : other ≠ c := fun heq => hnot (heq ▸ hother)
        exact (agreesAt_admitOne hne).admits now
      rw [admitAll_cons, ih hrest, List.filter_congr hadmits, admitOne_snd, List.filter_cons,
        RateLimiter.admits]

theorem ask_snd (s : Intake) (r : Request) (now : Moment) :
    (s.ask r now).2 = r.routed.filter fun c =>
      s.limiter.admits (RateLimiter.keyFor r.notification.user c) now.instant :=
  admitAll_snd (nodup_resolveChannels r.notification r.preference)

theorem agreesAt_ask {r : Request} {now : Moment} (hrouted : c ∈ r.routed) :
    (s.ask r now).1.limiter.AgreesAt
      (s.limiter.check (RateLimiter.keyFor r.notification.user c) now.instant).1
      (RateLimiter.keyFor r.notification.user c) :=
  agreesAt_admitAll (nodup_resolveChannels r.notification r.preference) hrouted

/-! ## Runs -/

/-- What a limiter keeps whatever is asked of it, it keeps in an intake. -/
theorem limiter_admitAll {P : RateLimiter → Prop} (hserve : ∀ l r, P l → P (l.serve r))
    (hstart : P s.limiter) : P (s.admitAll user now channels).1.limiter := by
  induction channels generalizing s with
  | nil => exact hstart
  | cons c rest ih =>
      rw [admitAll_cons_fst]
      apply ih
      rw [admitOne_limiter]
      exact hserve s.limiter (.check (RateLimiter.keyFor user c) now) hstart

theorem limiter_submit {P : RateLimiter → Prop} (hserve : ∀ l r, P l → P (l.serve r))
    (hstart : P s.limiter) (r : Request) (now : Moment) :
    P (s.submit r now).intake.limiter := by
  have hask : P (s.ask r now).1.limiter := limiter_admitAll hserve hstart
  have hhandling := handling_submit s r now
  generalize s.submit r now = response at hhandling
  cases hhandling with
  | invalid | duplicate | noChannels => exact hstart
  | rateLimited | unsaved => exact hask
  | queued =>
      rw [release_limiter]
      exact hask

theorem limiter_run {P : RateLimiter → Prop} (hserve : ∀ l r, P l → P (l.serve r))
    (hstart : P s.limiter) (actions : List Action) : P (s.run actions).limiter := by
  apply run_induction (P := fun s => P s.limiter) hstart
  intro before a hbefore
  cases a with
  | submit r now => exact limiter_submit hserve hbefore r now
  | limit r => exact hserve before.limiter r hbefore
  | _ => exact hbefore

theorem limiter_run_reachable (broker : Broker) (config : RateLimit) (window : Duration)
    (actions : List Action) :
    ((fresh broker (.withWindow config window)).run actions).limiter.Reachable := by
  apply limiter_run (P := RateLimiter.Reachable)
  · exact fun l r hreachable => hreachable.serve r
  · exact RateLimiter.withWindow_reachable config window

end Courier.Intake
