import Courier.NotificationId
import Courier.Proofs.Text.Digits
import Courier.Timestamp
import Mathlib.Tactic.SplitIfs

/-! # Identifiers and timestamps in words

What is written for an identifier is read as this identifier, and what is written
for a timestamp is read as this timestamp, whatever its year, and also in a leap
second.
-/

namespace Courier

/-! ## Identifiers -/

namespace NotificationId

theorem ne_hyphen_of_mem_hex {width n : Nat} {c : Char} (hc : c ∈ Text.hex width n) : c ≠ '-' := by
  induction width generalizing n with
  | zero => cases hc
  | succ width ih =>
      obtain hc | hc := List.mem_append.mp hc
      · exact ih hc
      · rw [List.mem_singleton.mp hc, Text.hexDigit]
        have hall : ∀ d < 16, Nat.digitChar d ≠ '-' := by decide
        exact hall _ (Nat.mod_lt _ (by decide))

theorem length_grouped {ds : List Char} (hlength : ds.length = 32) : (grouped ds).length = 36 := by
  simp only [grouped, List.length_append, List.length_cons, List.length_take, List.length_drop]
  omega

/-- Without the hyphens the groups are the digits. -/
theorem filter_grouped {ds : List Char} (hplain : ∀ d ∈ ds, d ≠ '-') :
    (grouped ds).filter (· ≠ '-') = ds := by
  have hgroup : ∀ k m, (ds.drop k).take m ++ ds.drop (k + m) = ds.drop k := by
    intro k m
    rw [← List.drop_drop, List.take_append_drop]
  have hhyphen : ∀ rest : List Char, ('-' :: rest).filter (· ≠ '-') = rest.filter (· ≠ '-') :=
    fun _ => List.filter_cons_of_neg (by decide)
  calc (grouped ds).filter (· ≠ '-')
      = (ds.take 8 ++ ((ds.drop 8).take 4 ++ ((ds.drop 12).take 4 ++
          ((ds.drop 16).take 4 ++ ds.drop 20)))).filter (· ≠ '-') := by
        simp only [grouped, List.append_assoc, List.filter_append, hhyphen]
    _ = ds.filter (· ≠ '-') := by
        rw [hgroup 16 4, hgroup 12 4, hgroup 8 4, List.take_append_drop]
    _ = ds := List.filter_eq_self.mpr fun d hd => decide_eq_true (hplain d hd)

theorem read?_of_length {s : String} (hlength : s.toList.length = 36) :
    read? s = ofGrouped? s.toList := by
  rw [read?, hlength, if_neg (by decide), if_pos rfl]

theorem readHex?_digits (id : NotificationId) :
    Text.readHex? id.digits = some id.value.toNat := by
  have hbound : id.value.toNat < Nat.pow 16 32 := id.value.isLt
  rw [Text.readHex?, digits, Text.readHexFrom?_hex, Nat.mod_eq_of_lt hbound, Nat.zero_mul,
    Nat.zero_add]

theorem read?_text (id : NotificationId) : read? id.text = some id := by
  have hlength : id.digits.length = 32 := Text.length_hex 32 _
  have hplain : ∀ d ∈ id.digits, d ≠ '-' := fun _ => ne_hyphen_of_mem_hex
  have hungrouped : ungroup? (grouped id.digits) = some id.digits := by
    rw [ungroup?, filter_grouped hplain]
    exact if_pos ⟨hlength, rfl⟩
  have hchars : id.text.toList = grouped id.digits := String.toList_ofList
  have hgrouped : id.text.toList.length = 36 := by
    rw [hchars, length_grouped hlength]
  rw [read?_of_length hgrouped, hchars, ofGrouped?, hungrouped, Option.bind_some, ofDigits?,
    readHex?_digits, Option.map_some, ofNat, BitVec.ofNat_toNat, BitVec.setWidth_eq]

end NotificationId

/-! ## Timestamps -/

namespace Timestamp

variable {s : List Char} {width n : Nat}

theorem isBlank_eq_false_of_isDigit {c : Char} (hc : c.isDigit = true) :
    Text.isBlank c = false := by
  have hrange : 48 ≤ c.toNat ∧ c.toNat ≤ 57 := by
    simpa [Char.isDigit, UInt32.le_iff_toNat_le] using hc
  simp only [Text.isBlank, Bool.or_eq_false_iff, Bool.and_eq_false_iff, decide_eq_false_iff_not]
  omega

theorem trimStart_cons {c : Char} (hc : Text.isBlank c = false) (s : List Char) :
    Text.trimStart (c :: s) = c :: s := by
  rw [Text.trimStart, if_neg (Bool.eq_false_iff.mp hc)]

/-- Nothing is trimmed from a number. -/
theorem trimStart_padded (width n : Nat) (s : List Char) :
    Text.trimStart (Text.padded width n ++ s) = Text.padded width n ++ s := by
  obtain ⟨d, ds, hds, hdigit⟩ := Text.exists_padded width n
  rw [hds, List.cons_append, trimStart_cons (isBlank_eq_false_of_isDigit hdigit)]

theorem readDigits?_padded {most : Nat} (hmost : (Text.padded width n).length ≤ most)
    (hs : Text.EndsDigits s) : readDigits? most (Text.padded width n ++ s) = some (n, s) := by
  obtain ⟨d, ds, hds, -⟩ := Text.exists_padded width n
  have htaken :
      (Text.leadingDigits (Text.padded width n ++ s)).take most = Text.padded width n := by
    rw [Text.leadingDigits_append (fun _ => Text.isDigit_of_mem_padded) hs,
      List.take_of_length_le hmost]
  rw [readDigits?, htaken, if_neg (hds ▸ List.cons_ne_nil d ds), Text.digitsValue_padded,
    List.drop_left]

theorem readTwo?_padded (hn : n < 100) (hs : Text.EndsDigits s) :
    readTwo? (Text.padded 2 n ++ s) = some (n, s) := by
  rw [readTwo?, trimStart_padded]
  exact readDigits?_padded (Nat.le_of_eq (Text.length_padded (by decide) hn)) hs

theorem readYear?_yearText (y : Int) (hs : Text.EndsDigits s) :
    readYear? (yearText y ++ s) = some (y, s) := by
  have hsigned : readDigits? (Text.padded 4 y.natAbs ++ s).length (Text.padded 4 y.natAbs ++ s) =
      some (y.natAbs, s) :=
    readDigits?_padded (by simp) hs
  rw [yearText]
  split_ifs with hfour hnegative
  · have hsmall : y.natAbs < 10000 := by omega
    have hlength : (Text.padded 4 y.natAbs).length = 4 := Text.length_padded (by decide) hsmall
    have hread := readDigits?_padded (Nat.le_of_eq hlength) hs
    obtain ⟨d, ds, hds, hdigit⟩ := Text.exists_padded 4 y.natAbs
    rw [readYear?, trimStart_padded]
    split
    next heq =>
      rw [hds] at heq
      rw [(List.cons.inj heq).1] at hdigit
      cases hdigit
    next heq =>
      rw [hds] at heq
      rw [(List.cons.inj heq).1] at hdigit
      cases hdigit
    next =>
      rw [hread, Option.map_some]
      dsimp only
      rw [Int.natAbs_of_nonneg hfour.1]
  · rw [List.cons_append, readYear?, trimStart_cons rfl]
    change (readDigits? _ (Text.padded 4 y.natAbs ++ s)).map _ = _
    rw [hsigned, Option.map_some]
    dsimp only
    rw [Int.ofNat_natAbs_of_nonpos (Int.le_of_lt hnegative), Int.neg_neg]
  · rw [List.cons_append, readYear?, trimStart_cons rfl]
    change (readDigits? _ (Text.padded 4 y.natAbs ++ s)).map _ = _
    rw [hsigned, Option.map_some]
    dsimp only
    rw [Int.natAbs_of_nonneg (Int.not_lt.mp hnegative)]

theorem readMark?_cons {mark : Char} (hmark : Text.isBlank mark = false) (s : List Char) :
    readMark? mark (mark :: s) = some s := by
  rw [readMark?, trimStart_cons hmark]
  exact if_pos rfl

theorem readSeparator?_cons (s : List Char) : readSeparator? ('T' :: s) = some s :=
  rfl

/-- The digits of a fraction, and what they count. -/
theorem readFraction?_padded (hpositive : 0 < width) (hwidth : width ≤ 9)
    (hn : n < Nat.pow 10 width) (hs : Text.EndsDigits s) :
    readFraction? ('.' :: (Text.padded width n ++ s)) = some (n * Nat.pow 10 (9 - width), s) := by
  have hlength := Text.length_padded hpositive hn
  obtain ⟨d, ds, hds, -⟩ := Text.exists_padded width n
  have hdigits : ∀ c ∈ Text.padded width n, c.isDigit = true := fun _ => Text.isDigit_of_mem_padded
  rw [readFraction?, Text.leadingDigits_append hdigits hs, Text.afterDigits_append hdigits hs,
    List.take_of_length_le (Nat.le_trans (Nat.le_of_eq hlength) hwidth),
    if_neg (hds ▸ List.cons_ne_nil d ds), Text.digitsValue_padded, hlength]

theorem readFraction?_fractionText (hn : n < 1000000000) :
    readFraction? (fractionText n ++ ['Z']) = some (n, ['Z']) := by
  have hs : Text.EndsDigits ['Z'] := Text.endsDigits_cons rfl []
  rw [fractionText]
  split_ifs with hnone hmillis hmicros
  · rw [hnone]
    rfl
  · have hfew : n / 1000000 < 1000 := by omega
    have hexact : n / 1000000 * 1000000 = n := by omega
    rw [List.cons_append, readFraction?_padded (by decide) (by decide) hfew hs]
    exact congrArg (fun k => some (k, ['Z'])) hexact
  · have hfew : n / 1000 < 1000000 := by omega
    have hexact : n / 1000 * 1000 = n := by omega
    rw [List.cons_append, readFraction?_padded (by decide) (by decide) hfew hs]
    exact congrArg (fun k => some (k, ['Z'])) hexact
  · rw [List.cons_append, readFraction?_padded (by decide) (by decide) hn hs]
    exact congrArg (fun k => some (k, ['Z'])) (Nat.mul_one n)

theorem ofComponents?_self (t : Timestamp) :
    ofComponents? t.year t.month t.day t.hour t.minute t.second t.nanosecond = some t :=
  dif_pos ⟨t.year_inRange, t.month_inRange, t.day_inRange, t.hour_lt, t.minute_lt, t.second_le,
    t.nanosecond_lt⟩

/-- A moment without an offset is the one that its components say. -/
theorem earlier?_zero (t : Timestamp) : t.earlier? 0 = some t := by
  have hhour := t.hour_lt
  have hminute := t.minute_lt
  have hday : ¬(t.hour * 60 + t.minute : Int) - 0 < 0 := by omega
  have hday' : ¬1440 ≤ (t.hour * 60 + t.minute : Int) - 0 := by omega
  have hof : (((t.hour * 60 + t.minute : Int) - 0) % 1440).toNat = t.hour * 60 + t.minute := by
    omega
  rw [earlier?, if_neg hday, if_neg hday', hof]
  have hhours : (t.hour * 60 + t.minute) / 60 = t.hour := by omega
  have hminutes : (t.hour * 60 + t.minute) % 60 = t.minute := by omega
  dsimp only
  rw [hhours, hminutes]
  exact ofComponents?_self t

theorem readOffset?_zulu : readOffset? (Text.trimStart ['Z']) = some (0, []) :=
  rfl

theorem day_le (t : Timestamp) : t.day ≤ 31 := by
  have hmonth : daysInMonth t.year t.month ≤ 31 := by
    rw [daysInMonth]
    split_ifs <;> decide
  exact Nat.le_trans t.day_inRange.2 hmonth

theorem endsDigits_fractionText (nanosecond : Nat) :
    Text.EndsDigits (fractionText nanosecond ++ ['Z']) := by
  rw [fractionText]
  split_ifs
  all_goals exact Text.endsDigits_cons rfl _

/-- Every number is read up to the mark behind it. -/
theorem readChars?_chars (t : Timestamp) : readChars? t.chars = some t := by
  have hchars : t.chars = yearText t.year ++ '-' :: (Text.padded 2 t.month ++
      '-' :: (Text.padded 2 t.day ++ 'T' :: (Text.padded 2 t.hour ++
      ':' :: (Text.padded 2 t.minute ++ ':' :: (Text.padded 2 t.second ++
      (fractionText t.nanosecond ++ ['Z'])))))) := by
    simp only [chars, List.append_assoc, List.cons_append]
  have hdate : ∀ s, Text.EndsDigits ('-' :: s) := Text.endsDigits_cons rfl
  have htime : ∀ s, Text.EndsDigits (':' :: s) := Text.endsDigits_cons rfl
  have hnoon : ∀ s, Text.EndsDigits ('T' :: s) := Text.endsDigits_cons rfl
  have hmonth : t.month < 100 := Nat.lt_of_le_of_lt t.month_inRange.2 (by decide)
  have hday : t.day < 100 := Nat.lt_of_le_of_lt t.day_le (by decide)
  have hhour : t.hour < 100 := Nat.lt_trans t.hour_lt (by decide)
  have hminute : t.minute < 100 := Nat.lt_trans t.minute_lt (by decide)
  have hsecond : t.second < 100 := Nat.lt_of_le_of_lt t.second_le (by decide)
  have hend : (Text.trimStart []).isEmpty ∧ (0 : Int).natAbs < 1440 := by decide
  rw [hchars, readChars?]
  -- The date
  refine Option.bind_eq_some_iff.mpr ⟨_, readYear?_yearText t.year (hdate _), ?_⟩
  refine Option.bind_eq_some_iff.mpr ⟨_, readMark?_cons rfl _, ?_⟩
  refine Option.bind_eq_some_iff.mpr ⟨_, readTwo?_padded hmonth (hdate _), ?_⟩
  refine Option.bind_eq_some_iff.mpr ⟨_, readMark?_cons rfl _, ?_⟩
  refine Option.bind_eq_some_iff.mpr ⟨_, readTwo?_padded hday (hnoon _), ?_⟩
  -- The time
  refine Option.bind_eq_some_iff.mpr ⟨_, readSeparator?_cons _, ?_⟩
  refine Option.bind_eq_some_iff.mpr ⟨_, readTwo?_padded hhour (htime _), ?_⟩
  refine Option.bind_eq_some_iff.mpr ⟨_, readMark?_cons rfl _, ?_⟩
  refine Option.bind_eq_some_iff.mpr ⟨_, readTwo?_padded hminute (htime _), ?_⟩
  refine Option.bind_eq_some_iff.mpr ⟨_, readMark?_cons rfl _, ?_⟩
  refine Option.bind_eq_some_iff.mpr
    ⟨_, readTwo?_padded hsecond (endsDigits_fractionText t.nanosecond), ?_⟩
  refine Option.bind_eq_some_iff.mpr ⟨_, readFraction?_fractionText t.nanosecond_lt, ?_⟩
  -- The offset
  refine Option.bind_eq_some_iff.mpr ⟨_, readOffset?_zulu, ?_⟩
  dsimp only
  rw [if_pos hend]
  exact Option.bind_eq_some_iff.mpr ⟨t, ofComponents?_self t, earlier?_zero t⟩

theorem read?_text (t : Timestamp) : read? t.text = some t := by
  rw [read?, text, String.toList_ofList, readChars?_chars]

end Timestamp

end Courier
