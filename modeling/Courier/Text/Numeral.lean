/-! # Decimal numerals

Reading and writing whole numbers in base ten. Only the digits `0` to `9`
count as digits.
-/

namespace Courier.Text

/-- The digits in front. -/
def leadingDigits (s : List Char) : List Char :=
  s.takeWhile Char.isDigit

def afterDigits (s : List Char) : List Char :=
  s.dropWhile Char.isDigit

/-- The number a run of digits stands for. -/
def digitsValue (ds : List Char) : Nat :=
  Nat.ofDigitChars 10 ds 0

/-- Reads a text that consists of digits, at least one. -/
def readNat? (s : List Char) : Option Nat :=
  if s ≠ [] ∧ s.all Char.isDigit then some (digitsValue s) else none

/-- Reads a natural number below `bound`, with an optional plus sign. -/
def readNatBelow? (bound : Nat) (s : List Char) : Option Nat :=
  let digits := match s with
    | '+' :: rest => rest
    | _ => s
  (readNat? digits).filter (· < bound)

/-- Signed 64-bit numbers lie below this, and not below its negative. -/
def signedBound : Nat := 9223372036854775808

def fitsSigned (n : Int) : Bool :=
  -(signedBound : Int) ≤ n && n < signedBound

/-- Reads a signed 64-bit number. -/
def readInt64? (s : List Char) : Option Int :=
  match s with
  | '-' :: rest => ((readNat? rest).filter (· ≤ signedBound)).map fun n => -(n : Int)
  | _ => (readNatBelow? signedBound s).map Int.ofNat

/-- Writes `n` with zeros in front up to `width` digits. -/
def padded (width n : Nat) : List Char :=
  let ds := Nat.toDigits 10 n
  List.replicate (width - ds.length) '0' ++ ds

theorem all_isDigit_toDigits (n : Nat) : (Nat.toDigits 10 n).all Char.isDigit = true := by
  simp only [List.all_eq_true]
  intro c hc
  exact Nat.isDigit_of_mem_toDigits (by decide) (by decide) hc

@[simp]
theorem digitsValue_toDigits (n : Nat) : digitsValue (Nat.toDigits 10 n) = n :=
  Nat.ofDigitChars_ten_toDigits

end Courier.Text
