import Courier.Text.Numeral

/-! # Numerals in a text

A numeral is read from the front of a text up to the first character that is no
digit. Padding does not change the number, and a number that is not zero has no
zero in front.
-/

namespace Courier.Text

/-- The text does not go on with a digit. -/
def EndsDigits (s : List Char) : Prop :=
  ∀ c ∈ s.head?, c.isDigit = false

variable {ds s : List Char} {c : Char} {width n : Nat}

theorem endsDigits_cons (hc : c.isDigit = false) (s : List Char) : EndsDigits (c :: s) := by
  intro d hd
  rwa [← Option.some.inj hd]

theorem EndsDigits.leadingDigits (h : EndsDigits s) : leadingDigits s = [] := by
  cases s with
  | nil => rfl
  | cons c s => exact List.takeWhile_cons_of_neg (Bool.eq_false_iff.mp (h c rfl))

theorem EndsDigits.afterDigits (h : EndsDigits s) : afterDigits s = s := by
  cases s with
  | nil => rfl
  | cons c s => exact List.dropWhile_cons_of_neg (Bool.eq_false_iff.mp (h c rfl))

theorem leadingDigits_append (hds : ∀ d ∈ ds, d.isDigit = true) (hs : EndsDigits s) :
    leadingDigits (ds ++ s) = ds := by
  rw [leadingDigits, List.takeWhile_append_of_pos hds, ← leadingDigits, hs.leadingDigits,
    List.append_nil]

theorem afterDigits_append (hds : ∀ d ∈ ds, d.isDigit = true) (hs : EndsDigits s) :
    afterDigits (ds ++ s) = s := by
  rw [afterDigits, List.dropWhile_append_of_pos hds, ← afterDigits, hs.afterDigits]

theorem isDigit_of_mem_toDigits (hc : c ∈ Nat.toDigits 10 n) : c.isDigit = true :=
  List.all_eq_true.mp (all_isDigit_toDigits n) c hc

/-- A numeral begins with a digit. -/
theorem exists_toDigits (n : Nat) : ∃ d ds, Nat.toDigits 10 n = d :: ds ∧ d.isDigit = true := by
  obtain ⟨d, ds, hds⟩ := List.exists_cons_of_ne_nil (Nat.toDigits_ne_nil (b := 10) (n := n))
  exact ⟨d, ds, hds, isDigit_of_mem_toDigits (hds ▸ List.mem_cons_self)⟩

theorem head?_toDigits_ne_zero (hn : n ≠ 0) : (Nat.toDigits 10 n).head? ≠ some '0' := by
  induction n using Nat.strongRecOn with
  | ind n ih =>
      rcases Nat.lt_or_ge n 10 with hless | hmore
      · rw [Nat.toDigits_of_lt_base hless]
        have hall : ∀ d < 10, d ≠ 0 → [Nat.digitChar d].head? ≠ some '0' := by decide
        exact hall n hless hn
      · have hhead := ih (n / 10) (by omega) (by omega)
        obtain ⟨d, ds, hds, -⟩ := exists_toDigits (n / 10)
        rw [Nat.toDigits_of_base_le (by decide) hmore]
        rw [hds] at hhead ⊢
        exact hhead

/-! ## Padding -/

theorem isDigit_of_mem_padded (hc : c ∈ padded width n) : c.isDigit = true := by
  obtain hzero | hdigit := List.mem_append.mp hc
  · rw [List.eq_of_mem_replicate hzero]
    rfl
  · exact isDigit_of_mem_toDigits hdigit

theorem exists_padded (width n : Nat) :
    ∃ d ds, padded width n = d :: ds ∧ d.isDigit = true := by
  have hne : padded width n ≠ [] := List.append_ne_nil_of_right_ne_nil _ Nat.toDigits_ne_nil
  obtain ⟨d, ds, hds⟩ := List.exists_cons_of_ne_nil hne
  exact ⟨d, ds, hds, isDigit_of_mem_padded (hds ▸ List.mem_cons_self)⟩

theorem length_padded (hpositive : 0 < width) (hn : n < Nat.pow 10 width) :
    (padded width n).length = width := by
  have hle := (Nat.length_toDigits_le_iff (by decide) hpositive).mpr hn
  rw [padded, List.length_append, List.length_replicate, Nat.sub_add_cancel hle]

theorem digitsValue_padded (width n : Nat) : digitsValue (padded width n) = n := by
  rw [padded, digitsValue, Nat.ofDigitChars_append, Nat.ofDigitChars_replicate_zero, Nat.mul_zero]
  exact digitsValue_toDigits n

end Courier.Text
