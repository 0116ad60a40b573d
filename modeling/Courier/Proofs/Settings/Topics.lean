import Courier.Proofs.Retry.Backoff
import Courier.Settings.Basic

/-! # What is set for one topic

The consumers of a topic retry on a schedule that the limit of the topic and the
waits of the pipeline fix. An override replaces the one value that it is for, in
its own topic and in no other.
-/

namespace Courier

/-- A failed event is put back until it has been put back `limit` times, at once if
the base is zero and else after waits that double up to a cap, in milliseconds. -/
structure RetryPolicy.KeepsSchedule (p : RetryPolicy) (limit : UInt32) (base cap : Nat) :
    Prop where
  deadLetters : ∀ retries, limit ≤ retries → p.next retries = .deadLetter
  atOnce : base = 0 → ∀ retries < limit, p.next retries = .retry none
  waits : base ≠ 0 → ∀ retries < limit, ∃ wait : Duration,
    p.next retries = .retry (some wait) ∧
      wait.nanos = min (base * 2 ^ retries.toNat) cap * 1000000 ∧
      base * 1000000 ≤ wait.nanos ∧ wait.nanos ≤ cap * 1000000
  monotone : ∀ (fewer more : UInt32) (wait wait' : Duration), fewer ≤ more →
    p.next fewer = .retry (some wait) → p.next more = .retry (some wait') →
      wait.nanos ≤ wait'.nanos

namespace RetryPolicy

variable {p : RetryPolicy} {retries : UInt32}

theorem next_of_le (hle : p.limit ≤ retries) : p.next retries = .deadLetter :=
  if_neg (UInt32.not_lt.mpr hle)

theorem next_of_lt (hlt : retries < p.limit) :
    p.next retries = .retry (p.backoff.map (·.delay retries)) :=
  if_pos hlt

theorem exists_backoff_of_next {wait : Duration} (hnext : p.next retries = .retry (some wait)) :
    ∃ b, p.backoff = some b ∧ b.delay retries = wait := by
  rw [next] at hnext
  split at hnext
  next =>
    obtain ⟨b, hb, hwait⟩ := Option.map_eq_some_iff.mp (RetryAction.retry.inj hnext)
    exact ⟨b, hb, hwait⟩
  next => cases hnext

/-- Without backoff there is no wait at all. -/
theorem keepsSchedule_of_none (limit : UInt32) (cap : Nat) :
    (⟨limit, none⟩ : RetryPolicy).KeepsSchedule limit 0 cap where
  deadLetters _ hle := next_of_le hle
  atOnce _ _ hlt := next_of_lt hlt
  waits hpos := absurd rfl hpos
  monotone _ _ _ _ _ hnext := by
    obtain ⟨b, hb, -⟩ := exists_backoff_of_next hnext
    cases hb

/-- Milliseconds become nanoseconds without a loss, so that the waits are exact in
either unit. -/
theorem keepsSchedule_of_some (limit : UInt32) {b : Backoff} {base cap : Nat}
    (hbase : b.base.nanos = base * 1000000) (hcap : b.max.nanos = cap * 1000000)
    (hpos : base ≠ 0) (hle : base ≤ cap) :
    (⟨limit, some b⟩ : RetryPolicy).KeepsSchedule limit base cap where
  deadLetters _ hle := next_of_le hle
  atOnce hzero := absurd hzero hpos
  waits _ retries hlt := by
    have hwait : (b.delay retries).nanos = min (base * 2 ^ retries.toNat) cap * 1000000 := by
      rw [b.nanos_delay, hbase, hcap, Nat.mul_right_comm, Nat.mul_min_mul_right]
    refine ⟨b.delay retries, next_of_lt hlt, hwait, ?_, ?_⟩
    · have hgrown : base ≤ base * 2 ^ retries.toNat :=
        Nat.le_mul_of_pos_right base (Nat.two_pow_pos _)
      rw [hwait]
      exact Nat.mul_le_mul_right _ (Nat.le_min.mpr ⟨hgrown, hle⟩)
    · rw [hwait]
      exact Nat.mul_le_mul_right _ (Nat.min_le_right _ _)
  monotone fewer more wait wait' hle hfewer hmore := by
    obtain ⟨b', hb', rfl⟩ := exists_backoff_of_next hfewer
    obtain ⟨b'', hb'', rfl⟩ := exists_backoff_of_next hmore
    obtain rfl := Option.some.inj (hb'.symm.trans hb'')
    have hpow : 2 ^ fewer.toNat ≤ 2 ^ more.toNat :=
      Nat.pow_le_pow_right Nat.two_pos (UInt32.le_iff_toNat_le.mp hle)
    rw [b'.nanos_delay, b'.nanos_delay]
    exact min_le_min (Nat.mul_le_mul_left b'.base.nanos hpow) (Nat.le_refl _)

end RetryPolicy

namespace PipelineSettings

variable {s : PipelineSettings} {t : Topic}

/-- The settings with an override for a topic, which replaces the one that was
there. -/
def overriding (s : PipelineSettings) (t : Topic) (o : TopicOverride) : PipelineSettings :=
  { s with topics := s.topics.insert t o }

/-- The cap on the waits: a maximum below the base is raised to it. -/
def capMillis (s : PipelineSettings) : Nat :=
  max s.backoffMaxMillis.toNat s.backoffBaseMillis.toNat

theorem nanos_ofMillis (ms : UInt64) : (Duration.ofMillis ms).nanos = ms.toNat * 1000000 := rfl

theorem retryPolicy_keepsSchedule (s : PipelineSettings) (limit : UInt32) :
    (s.retryPolicy limit).KeepsSchedule limit s.backoffBaseMillis.toNat s.capMillis := by
  rw [retryPolicy, backoff]
  split
  next hzero =>
    rw [hzero]
    exact RetryPolicy.keepsSchedule_of_none limit s.capMillis
  next hnonzero =>
    have hpos : s.backoffBaseMillis.toNat ≠ 0 := fun h => hnonzero (UInt64.toNat_inj.mp h)
    have hcap : ((Duration.ofMillis s.backoffMaxMillis).max
        (Duration.ofMillis s.backoffBaseMillis)).nanos = s.capMillis * 1000000 := by
      rw [Duration.nanos_max, nanos_ofMillis, nanos_ofMillis, capMillis, Nat.mul_max_mul_right]
    exact RetryPolicy.keepsSchedule_of_some limit (nanos_ofMillis _) hcap hpos (Nat.le_max_right _ _)

/-- What is set for other topics does not matter. -/
theorem consumerConfig_congr {topics : Table Topic TopicOverride}
    (hsame : topics.get? t = s.topics.get? t) :
    ({ s with topics := topics } : PipelineSettings).consumerConfig t = s.consumerConfig t := by
  have hoverride : ({ s with topics := topics } : PipelineSettings).override t = s.override t := by
    rw [override, Table.getD, hsame, override, Table.getD]
  rw [consumerConfig, hoverride]
  rfl

theorem override_overriding (s : PipelineSettings) (t : Topic) (o : TopicOverride) :
    (s.overriding t o).override t = o := by
  rw [override, overriding, Table.getD, Table.get?_insert_self, Option.getD_some]

/-- Each value of a topic is its own or else that of the pipeline. -/
theorem consumerConfig_overriding (s : PipelineSettings) (t : Topic) (o : TopicOverride) :
    (s.overriding t o).consumerConfig t =
      { queueCapacity := (o.queueCapacity.getD s.queueCapacity).toNat
        dlqCapacity := (o.dlqCapacity.getD s.dlqCapacity).toNat
        workerCount := (o.workerCount.getD s.workerCount).toNat
        retry := s.retryPolicy (o.retryLimit.getD s.retryLimit) } := by
  rw [consumerConfig, override_overriding]
  rfl

/-- How the consumers of a topic depend on the overrides: on those of other topics
not at all, and on each value of their own in one place. -/
structure SetsApart (s : PipelineSettings) (t : Topic) : Prop where
  others : ∀ topics : Table Topic TopicOverride, topics.get? t = s.topics.get? t →
    ({ s with topics := topics } : PipelineSettings).consumerConfig t = s.consumerConfig t
  queueCapacity : ∀ own : Option UInt64,
    (s.overriding t { s.override t with queueCapacity := own }).consumerConfig t =
      { s.consumerConfig t with queueCapacity := (own.getD s.queueCapacity).toNat }
  dlqCapacity : ∀ own : Option UInt64,
    (s.overriding t { s.override t with dlqCapacity := own }).consumerConfig t =
      { s.consumerConfig t with dlqCapacity := (own.getD s.dlqCapacity).toNat }
  workerCount : ∀ own : Option UInt64,
    (s.overriding t { s.override t with workerCount := own }).consumerConfig t =
      { s.consumerConfig t with workerCount := (own.getD s.workerCount).toNat }
  retryLimit : ∀ own : Option UInt32,
    (s.overriding t { s.override t with retryLimit := own }).consumerConfig t =
      { s.consumerConfig t with
        retry := { (s.consumerConfig t).retry with limit := own.getD s.retryLimit } }

theorem setsApart (s : PipelineSettings) (t : Topic) : s.SetsApart t where
  others _ hsame := consumerConfig_congr hsame
  queueCapacity _ := consumerConfig_overriding s t _
  dlqCapacity _ := consumerConfig_overriding s t _
  workerCount _ := consumerConfig_overriding s t _
  retryLimit _ := consumerConfig_overriding s t _

/-- The consumers of a topic retry up to the limit of the topic, or else that of the
pipeline, with waits that are the base times two to the power of the earlier retries
up to the greater of the maximum and the base. Overrides of other topics change
nothing for them, whatever is changed, added or removed, and each value of their own
override changes just what it is for. -/
theorem keepsSchedule_and_setsApart (s : PipelineSettings) (t : Topic) :
    (s.consumerConfig t).retry.KeepsSchedule
        (((s.topics.get? t).bind TopicOverride.retryLimit).getD s.retryLimit)
        s.backoffBaseMillis.toNat (max s.backoffMaxMillis.toNat s.backoffBaseMillis.toNat) ∧
      s.SetsApart t := by
  have hlimit : ((s.topics.get? t).bind TopicOverride.retryLimit).getD s.retryLimit =
      (s.override t).retryLimit.getD s.retryLimit := by
    rw [override, Table.getD]
    cases s.topics.get? t <;> rfl
  rw [hlimit]
  exact ⟨s.retryPolicy_keepsSchedule _, s.setsApart t⟩

/-- A topic that retries five times, with waits from a tenth of a second up to half a
second. A maximum of ten milliseconds would be raised to the base, and neither a
limit of its own for another topic nor a worker more for this one changes a wait. -/
theorem keepsSchedule_and_setsApart_of_mail :
    let s : PipelineSettings :=
      { PipelineSettings.default with
        backoffBaseMillis := 100
        backoffMaxMillis := 500
        topics := Table.empty.insert "mail" ⟨none, none, some 2, some 5⟩ }
    let raised : PipelineSettings := { s with backoffMaxMillis := 10 }
    let next := (s.consumerConfig "mail").retry.next
    (∃ wait : Duration, next 2 = .retry (some wait) ∧ wait.nanos = 400000000) ∧
      (∃ wait : Duration, next 4 = .retry (some wait) ∧ wait.nanos = 500000000) ∧
      next 5 = .deadLetter ∧
      (∃ wait : Duration, (raised.consumerConfig "mail").retry.next 4 = .retry (some wait) ∧
        wait.nanos = 100000000) ∧
      (s.overriding "chat" ⟨none, none, none, some 0⟩).consumerConfig "mail" =
        s.consumerConfig "mail" ∧
      (s.overriding "mail" { s.override "mail" with workerCount := some 3 }).consumerConfig "mail" =
        { s.consumerConfig "mail" with workerCount := 3 } := by
  intro s raised next
  obtain ⟨hschedule, happart⟩ := keepsSchedule_and_setsApart s "mail"
  obtain ⟨hraised, -⟩ := keepsSchedule_and_setsApart raised "mail"
  obtain ⟨early, hearly, hexact, -⟩ := hschedule.waits (by decide) 2 (by decide)
  obtain ⟨late, hlate, hcapped, -⟩ := hschedule.waits (by decide) 4 (by decide)
  obtain ⟨even, heven, hbase, -⟩ := hraised.waits (by decide) 4 (by decide)
  have hother : (s.topics.insert "chat" ⟨none, none, none, some 0⟩).get? "mail" =
      s.topics.get? "mail" := by
    decide
  exact ⟨⟨early, hearly, hexact.trans (by decide)⟩, ⟨late, hlate, hcapped.trans (by decide)⟩,
    hschedule.deadLetters 5 (by decide), ⟨even, heven, hbase.trans (by decide)⟩,
    happart.others _ hother, happart.workerCount (some 3)⟩

end PipelineSettings

end Courier
