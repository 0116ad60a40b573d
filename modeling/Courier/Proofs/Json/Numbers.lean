import Courier.Json.Writer
import Courier.Json.Number
import Courier.Proofs.Text.Digits

/-! # Whole numbers read as they were written

A whole number is written by its digits, with a sign if it is negative. Where no
more digits, no point and no exponent follow, the same number is read again, as
long as 64 bits hold it.
-/

namespace Courier.Json

/-- Some type of 64 bits has the number, signed or not. -/
def FitsWord (n : Int) : Prop :=
  -(Text.signedBound : Int) ≤ n ∧ n < capacity

/-- What can follow a value in a text: nothing, a comma, or a closing bracket. -/
def EndsValue (s : List Char) : Prop :=
  ∀ c ∈ s.head?, c = ',' ∨ c = ']' ∨ c = '\x7d'

variable {s : List Char} {n : Int}

theorem endsValue_nil : EndsValue [] :=
  nofun

theorem endsValue_cons {c : Char} (hc : c = ',' ∨ c = ']' ∨ c = '\x7d') (s : List Char) :
    EndsValue (c :: s) := by
  intro d hd
  rwa [← Option.some.inj hd]

theorem EndsValue.endsDigits (h : EndsValue s) : Text.EndsDigits s := by
  intro c hc
  rcases h c hc with rfl | rfl | rfl <;> rfl

namespace Literal

theorem readFraction?_of_endsValue (h : EndsValue s) : readFraction? s = some ([], s) := by
  cases s with
  | nil => rfl
  | cons c s => rcases h c rfl with rfl | rfl | rfl <;> rfl

theorem readExponent?_of_endsValue (h : EndsValue s) : readExponent? s = some (none, s) := by
  cases s with
  | nil => rfl
  | cons c s => rcases h c rfl with rfl | rfl | rfl <;> rfl

/-- No number begins with a zero but zero itself. -/
theorem not_leads_zero (k : Nat) :
    ¬(Nat.toDigits 10 k = [] ∨
      (Nat.toDigits 10 k).head? = some '0' ∧ 1 < (Nat.toDigits 10 k).length) := by
  rintro (hnil | ⟨hzero, hlong⟩)
  · exact Nat.toDigits_ne_nil hnil
  · by_cases hk : k = 0
    · rw [hk, Nat.toDigits_of_lt_base (by decide)] at hlong
      exact absurd hlong (by decide)
    · exact Text.head?_toDigits_ne_zero hk hzero

theorem read?_write (n : Int) (hs : EndsValue s) :
    read? ((Number.whole n).write ++ s) =
      some (⟨n < 0, Nat.toDigits 10 n.natAbs, [], none⟩, s) := by
  have hdigits : ∀ d ∈ Nat.toDigits 10 n.natAbs, d.isDigit = true :=
    fun _ => Text.isDigit_of_mem_toDigits
  have hleading := Text.leadingDigits_append hdigits hs.endsDigits
  have hafter := Text.afterDigits_append hdigits hs.endsDigits
  have hplain := not_leads_zero n.natAbs
  rw [Number.write]
  split
  next hnegative =>
    rw [List.cons_append, read?]
    simp only [hleading, hafter, hplain, ↓reduceIte, readFraction?_of_endsValue hs]
    simp [hnegative, readExponent?_of_endsValue hs]
  next hpositive =>
    rw [read?]
    · simp only [hleading, hafter, hplain, ↓reduceIte, readFraction?_of_endsValue hs]
      simp [hpositive, readExponent?_of_endsValue hs]
    · -- A digit is no sign.
      intro rest heq
      obtain ⟨d, ds, hds, hdigit⟩ := Text.exists_toDigits n.natAbs
      rw [hds] at heq
      rw [(List.cons.inj heq).1] at hdigit
      cases hdigit

theorem value?_write (hn : FitsWord n) :
    value? ⟨n < 0, Nat.toDigits 10 n.natAbs, [], none⟩ = some (.whole n) := by
  obtain ⟨hlow, hhigh⟩ := hn
  rw [value?]
  dsimp only
  rw [Text.digitsValue_toDigits, if_neg (by simp)]
  by_cases hnegative : n < 0
  · rw [if_pos (by simpa using hnegative), if_pos ⟨by omega, by omega⟩]
    congr 2
    omega
  · rw [if_neg (by simpa using hnegative), if_pos (by omega)]
    congr 2
    omega

end Literal

end Courier.Json
