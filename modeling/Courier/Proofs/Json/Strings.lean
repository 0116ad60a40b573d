import Courier.Json.Text
import Mathlib.Tactic.SplitIfs

/-! # Strings read as they were written

A string stands between its quotes character by character: each character is
written by itself or as an escape, and what is written for one is read as one
piece that stands for it.
-/

namespace Courier.Json

/-- The piece is joined with others as this character would be. -/
def Piece.StandsFor (p : Piece) (c : Char) : Prop :=
  ∀ rest, assemble? (p :: rest) = (assemble? rest).map (c :: ·)

/-- The text is read as one piece, and then comes what follows it. -/
def ReadsAs (text : List Char) (p : Piece) : Prop :=
  ∀ rest, readPieces? (text ++ rest) =
    (readPieces? rest).map fun (pieces, after) => (p :: pieces, after)

variable {c e : Char} {n : Nat}

theorem readsAs_short (hshort : shortEscape? e = some c) : ReadsAs ['\\', e] (.char c) := by
  intro rest
  have hu : e ≠ 'u' := by
    rintro rfl
    cases hshort
  rw [List.cons_append, List.cons_append, List.nil_append, readPieces?]
  · rw [hshort]
    cases readPieces? rest <;> rfl
  · exact fun _ _ _ _ _ heq => absurd heq hu

theorem readsAs_unit (hn : n < 0x10000) : ReadsAs (['\\', 'u'] ++ Text.hex 4 n) (.unit n) := by
  intro rest
  have hhex : Text.readHex? (Text.hex 4 n) = some n := by
    rw [Text.readHex?, Text.readHexFrom?_hex, Nat.zero_mul, Nat.zero_add]
    exact congrArg some (Nat.mod_eq_of_lt hn)
  obtain ⟨a, b, c, d, hdigits⟩ : ∃ a b c d, Text.hex 4 n = [a, b, c, d] := ⟨_, _, _, _, rfl⟩
  rw [hdigits] at hhex ⊢
  change readPieces? ('\\' :: 'u' :: a :: b :: c :: d :: rest) = _
  rw [readPieces?, hhex]
  cases readPieces? rest <;> rfl

theorem readsAs_plain (hquote : c ≠ '"') (hescape : c ≠ '\\') (hvisible : ¬c.toNat < 0x20) :
    ReadsAs [c] (.char c) := by
  intro rest
  rw [List.cons_append, List.nil_append, readPieces?]
  · rw [if_neg (not_or.mpr ⟨hvisible, hescape⟩)]
    cases readPieces? rest <;> rfl
  · exact hquote
  · exact fun _ _ _ _ _ heq => absurd heq hescape
  · exact fun _ _ heq => absurd heq hescape

theorem standsFor_char (c : Char) : (Piece.char c).StandsFor c :=
  fun _ => rfl

/-- Units that are no half of a pair stand for themselves. -/
theorem standsFor_unit (hbelow : c.toNat < 0xD800) : (Piece.unit c.toNat).StandsFor c := by
  intro rest
  have hhigh : isHighUnit c.toNat = false := by
    simp only [isHighUnit, Bool.and_eq_false_iff, decide_eq_false_iff_not]
    omega
  have hlow : isLowUnit c.toNat = false := by
    simp only [isLowUnit, Bool.and_eq_false_iff, decide_eq_false_iff_not]
    omega
  rw [assemble?.eq_def]
  dsimp only
  rw [if_neg (by rw [hhigh]; exact Bool.false_ne_true),
    if_neg (by rw [hlow]; exact Bool.false_ne_true), Char.ofNat_toNat]

/-- Whatever is written for a character, one piece is read that stands for it. -/
theorem exists_piece (c : Char) : ∃ p : Piece, p.StandsFor c ∧ ReadsAs (escapeChar c) p := by
  have hshort : ∀ e, shortEscape? e = some c → ∃ p : Piece, p.StandsFor c ∧ ReadsAs ['\\', e] p :=
    fun e he => ⟨.char c, standsFor_char c, readsAs_short he⟩
  rw [escapeChar]
  split_ifs with hquote hescape hback htab hline hpage hreturn hcontrol
  · exact hshort '"' (by rw [hquote]; rfl)
  · exact hshort '\\' (by rw [hescape]; rfl)
  · exact hshort 'b' (by rw [hback]; rfl)
  · exact hshort 't' (by rw [htab]; rfl)
  · exact hshort 'n' (by rw [hline]; rfl)
  · exact hshort 'f' (by rw [hpage]; rfl)
  · exact hshort 'r' (by rw [hreturn]; rfl)
  · exact ⟨.unit c.toNat, standsFor_unit (Nat.lt_trans hcontrol (by decide)),
      readsAs_unit (Nat.lt_trans hcontrol (by decide))⟩
  · exact ⟨.char c, standsFor_char c, readsAs_plain hquote hescape hcontrol⟩

theorem exists_pieces (cs rest : List Char) :
    ∃ pieces, readPieces? (cs.flatMap escapeChar ++ '"' :: rest) = some (pieces, rest) ∧
      assemble? pieces = some cs := by
  induction cs with
  | nil => exact ⟨[], rfl, rfl⟩
  | cons c cs ih =>
      obtain ⟨pieces, hread, hassembled⟩ := ih
      obtain ⟨p, hstands, hreads⟩ := exists_piece c
      refine ⟨p :: pieces, ?_, ?_⟩
      · rw [List.flatMap_cons, List.append_assoc, hreads, hread]
        rfl
      · rw [hstands, hassembled]
        rfl

/-- After its opening quote a string is read as it was written. -/
theorem readString?_write (s : String) (rest : List Char) :
    readString? (s.toList.flatMap escapeChar ++ '"' :: rest) = some (some s, rest) := by
  obtain ⟨pieces, hread, hassembled⟩ := exists_pieces s.toList rest
  rw [readString?, hread, Option.map_some]
  dsimp only
  rw [hassembled, Option.map_some, String.ofList_toList]

end Courier.Json
