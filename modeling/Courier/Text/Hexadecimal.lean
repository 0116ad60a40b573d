/-! # Hexadecimal digits

Digits are read in either case and written in lower case.
-/

namespace Courier.Text

def hexDigit (n : Nat) : Char :=
  Nat.digitChar (n % 16)

def hexValue? (c : Char) : Option Nat :=
  if '0' ≤ c ∧ c ≤ '9' then some (c.toNat - 48)
  else if 'a' ≤ c ∧ c ≤ 'f' then some (c.toNat - 87)
  else if 'A' ≤ c ∧ c ≤ 'F' then some (c.toNat - 55)
  else none

/-- The last `width` hexadecimal digits of `n`. -/
def hex : Nat → Nat → List Char
  | 0, _ => []
  | width + 1, n => hex width (n / 16) ++ [hexDigit n]

/-- Reads every character as a hexadecimal digit, onto the number `acc`. -/
def readHexFrom? (acc : Nat) : List Char → Option Nat
  | [] => some acc
  | c :: rest => (hexValue? c).bind fun d => readHexFrom? (acc * 16 + d) rest

def readHex? (s : List Char) : Option Nat :=
  readHexFrom? 0 s

@[simp]
theorem length_hex (width n : Nat) : (hex width n).length = width := by
  induction width generalizing n with
  | zero => rfl
  | succ width ih => simp [hex, ih]

theorem hexValue?_hexDigit (n : Nat) : hexValue? (hexDigit n) = some (n % 16) := by
  have h : ∀ d < 16, hexValue? (Nat.digitChar d) = some d := by decide
  exact h _ (Nat.mod_lt _ (by decide))

theorem readHexFrom?_append (acc : Nat) (s t : List Char) :
    readHexFrom? acc (s ++ t) = (readHexFrom? acc s).bind fun n => readHexFrom? n t := by
  induction s generalizing acc with
  | nil => rfl
  | cons c rest ih =>
      simp only [List.cons_append, readHexFrom?]
      cases hexValue? c with
      | none => rfl
      | some d => exact ih _

theorem readHexFrom?_hex (acc width n : Nat) :
    readHexFrom? acc (hex width n) =
      some (acc * Nat.pow 16 width + n % Nat.pow 16 width) := by
  change _ = some (acc * 16 ^ width + n % 16 ^ width)
  induction width generalizing n with
  | zero => simp [hex, readHexFrom?, Nat.mod_one]
  | succ width ih =>
      rw [hex, readHexFrom?_append, ih]
      simp only [Option.bind_some, readHexFrom?, hexValue?_hexDigit, Option.some.injEq]
      have hmod : n % 16 ^ (width + 1) = n / 16 % 16 ^ width * 16 + n % 16 := by
        rw [Nat.pow_succ', Nat.mod_mul]
        omega
      rw [hmod, Nat.pow_succ, Nat.add_mul, Nat.mul_assoc]
      omega

end Courier.Text
