import Courier.Retry
import Mathlib.Algebra.Order.Ring.Nat

/-! # The wait before a retry

A wait grows by doublings that saturate at the longest duration, and stops
growing at the cap. Neither shows: every wait is the exact product of the base
and a power of two, or the cap if that is less.
-/

namespace Courier

namespace Duration

/-- No duration is longer than the one at which doubling saturates, so that a
double below any of them is exact. -/
theorem nanos_double_of_lt {d cap : Duration} (hlt : d.double.nanos < cap.nanos) :
    d.double.nanos = 2 * d.nanos := by
  have hcap := cap.nanos_le
  rw [nanos_double] at hlt ⊢
  omega

theorem le_two_mul_of_le_double {d cap : Duration} (hle : cap.nanos ≤ d.double.nanos) :
    cap.nanos ≤ 2 * d.nanos :=
  Nat.le_trans hle (Nat.min_le_left _ _)

end Duration

namespace Backoff

/-- Doubling with saturation until the cap is reached comes to the same as
multiplying first and capping then. -/
theorem nanos_grow (cap : Duration) (times : Nat) (delay : Duration) :
    (grow cap times delay).nanos = min (delay.nanos * 2 ^ times) cap.nanos := by
  induction times generalizing delay with
  | zero => rw [grow, Duration.nanos_min, pow_zero, Nat.mul_one]
  | succ times ih =>
      have hdoubled : delay.nanos * 2 ^ (times + 1) = 2 * delay.nanos * 2 ^ times := by
        rw [pow_succ', ← Nat.mul_assoc, Nat.mul_comm delay.nanos 2]
      rw [grow, hdoubled]
      split
      next hreached =>
        -- What is doubled once more can only be longer.
        have hle : cap.nanos ≤ 2 * delay.nanos * 2 ^ times :=
          Nat.le_trans (Duration.le_two_mul_of_le_double hreached)
            (Nat.le_mul_of_pos_right _ (Nat.two_pow_pos times))
        rw [Nat.min_eq_right hle]
      next hbelow =>
        have hexact := Duration.nanos_double_of_lt (Nat.lt_of_not_le hbelow)
        split
        next hzero =>
          have hnone : delay.double.nanos = 0 := of_decide_eq_true hzero
          rw [← hexact, hnone, Nat.zero_mul, Nat.zero_min]
        next => rw [ih, hexact]

theorem nanos_delay (b : Backoff) (retries : UInt32) :
    (b.delay retries).nanos = min (b.base.nanos * 2 ^ retries.toNat) b.max.nanos :=
  nanos_grow b.max retries.toNat b.base

/-- The wait before a retry is the base times two to the power of the earlier
retries, capped, computed as if there were no longest duration. So it never
exceeds the cap, and after more retries it is never shorter. -/
theorem delay_eq_min_and_monotone (b : Backoff) :
    (∀ retries : UInt32,
      (b.delay retries).nanos = min (b.base.nanos * 2 ^ retries.toNat) b.max.nanos) ∧
    (∀ retries : UInt32, (b.delay retries).nanos ≤ b.max.nanos) ∧
    ∀ fewer more : UInt32, fewer ≤ more → (b.delay fewer).nanos ≤ (b.delay more).nanos := by
  refine ⟨b.nanos_delay, fun retries => ?_, fun fewer more hle => ?_⟩
  · rw [nanos_delay]
    exact Nat.min_le_right _ _
  · have hpow : 2 ^ fewer.toNat ≤ 2 ^ more.toNat :=
      Nat.pow_le_pow_right Nat.two_pos (UInt32.le_iff_toNat_le.mp hle)
    rw [nanos_delay, nanos_delay]
    exact min_le_min (Nat.mul_le_mul_left b.base.nanos hpow) (Nat.le_refl _)

/-- A tenth of a second up to half a second, with a cap that is no doubling of the
base; and half of the longest duration, whose double saturates below the exact
product but not below the cap. -/
theorem delay_eq_min_and_monotone_of_saturated :
    let short : Backoff := ⟨Duration.ofMillis 100, Duration.ofMillis 500⟩
    let long : Backoff :=
      ⟨⟨9223372036854775808000000000, by decide⟩, Duration.saturated Duration.maxNanos⟩
    (2 : UInt32) ≤ 4294967295 ∧
      ([0, 1, 2, 3, 40] : List UInt32).map (fun retries => (short.delay retries).nanos) =
        [100000000, 200000000, 400000000, 500000000, 500000000] ∧
      (long.delay 1).nanos = 18446744073709551615999999999 ∧
      (short.delay 2).nanos ≤ (short.delay 4294967295).nanos ∧
      (short.delay 4294967295).nanos ≤ 500000000 := by
  intro short long
  have hshort := delay_eq_min_and_monotone short
  have hlong := delay_eq_min_and_monotone long
  refine ⟨by decide, ?_, ?_, hshort.2.2 2 4294967295 (by decide), hshort.2.1 4294967295⟩
  · simp only [List.map_cons, List.map_nil, hshort.1]
    decide
  · rw [hlong.1]
    decide

end Backoff

end Courier
