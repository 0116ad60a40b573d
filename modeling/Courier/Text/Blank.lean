/-! # Blank characters

The characters with the Unicode property `White_Space`. Format characters
such as U+200B and U+FEFF do not have it.
-/

namespace Courier.Text

def isBlank (c : Char) : Bool :=
  let n := c.toNat
  (9 ≤ n && n ≤ 13) || n = 0x20 || n = 0x85 || n = 0xA0 || n = 0x1680 ||
    (0x2000 ≤ n && n ≤ 0x200A) || n = 0x2028 || n = 0x2029 || n = 0x202F ||
    n = 0x205F || n = 0x3000

/-- Drops the blanks in front. -/
def trimStart : List Char → List Char
  | [] => []
  | c :: rest => if isBlank c then trimStart rest else c :: rest

/-- Drops the blanks in front and at the end. -/
def trim (s : List Char) : List Char :=
  (trimStart (trimStart s).reverse).reverse

theorem trimStart_eq_nil_iff {s : List Char} :
    trimStart s = [] ↔ ∀ c ∈ s, isBlank c = true := by
  induction s with
  | nil => simp [trimStart]
  | cons c rest ih => by_cases h : isBlank c <;> simp [trimStart, h, ih]

theorem head_trimStart {s rest : List Char} {c : Char} (h : trimStart s = c :: rest) :
    isBlank c = false := by
  induction s with
  | nil => simp [trimStart] at h
  | cons d t ih =>
      by_cases hd : isBlank d
      · exact ih (by simpa [trimStart, hd] using h)
      · simp only [trimStart, hd, Bool.false_eq_true, ↓reduceIte, List.cons.injEq] at h
        simpa [← h.1] using hd

/-- Trimming leaves nothing exactly if there is nothing but blanks. -/
theorem trim_eq_nil_iff {s : List Char} : trim s = [] ↔ ∀ c ∈ s, isBlank c = true := by
  rw [← trimStart_eq_nil_iff, trim, List.reverse_eq_nil_iff, trimStart_eq_nil_iff]
  constructor
  · intro h
    cases hs : trimStart s with
    | nil => rfl
    | cons c rest =>
        have hc := h c (by simp [hs])
        simp [head_trimStart hs] at hc
  · intro h
    simp [h]

end Courier.Text
