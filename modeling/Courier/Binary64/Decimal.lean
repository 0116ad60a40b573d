import Courier.Text.Numeral

/-! # Decimal notation of binary fractions

A decimal stands for `significand · 10 ^ exponent`, with a sign. It is turned
into the nearest double; values out of reach become zero or infinity before
any large power of ten is formed.
-/

namespace Courier

structure Decimal where
  negative : Bool
  significand : Nat
  exponent : Int
  deriving DecidableEq, Repr

namespace Decimal

/-- The nearest double to a significand times a power of ten. -/
def magnitude (significand : Nat) (exponent : Int) : Float :=
  let top := exponent + (Nat.toDigits 10 significand).length
  if significand = 0 ∨ top < -400 then 0.0
  else if 400 < top then 1.0 / 0.0
  else if exponent < 0 then Float.ofScientific significand true exponent.natAbs
  else Float.ofScientific significand false exponent.natAbs

def toFloat (d : Decimal) : Float :=
  let x := magnitude d.significand d.exponent
  if d.negative then -x else x

/-- Whole numbers are decimals without a fraction. -/
def ofInt (n : Int) : Decimal :=
  ⟨n < 0, n.natAbs, 0⟩

/-- The exponent after `e` or `E`: an optional sign and at least one digit. -/
def readExponent? : List Char → Option Int
  | '-' :: rest => (Text.readNat? rest).map fun n => -(n : Int)
  | '+' :: rest => (Text.readNat? rest).map Int.ofNat
  | rest => (Text.readNat? rest).map Int.ofNat

/-- An unsigned decimal: digits with at most one point among or around them,
at least one digit in all, and an optional exponent. -/
def readUnsigned? (s : List Char) : Option (Nat × Int) := do
  let whole := Text.leadingDigits s
  let rest := Text.afterDigits s
  let (fraction, rest) := match rest with
    | '.' :: rest => (Text.leadingDigits rest, Text.afterDigits rest)
    | _ => ([], rest)
  if whole = [] ∧ fraction = [] then none
  let exponent ← match rest with
    | [] => some 0
    | c :: rest => if c = 'e' ∨ c = 'E' then readExponent? rest else none
  return (Text.digitsValue (whole ++ fraction), exponent - fraction.length)

end Decimal

/-- Reads a double from text. Besides decimals it knows `inf`, `infinity` and
`nan` in any case; all take a sign, none takes blanks around it. -/
def readFloat? (s : List Char) : Option Float :=
  let (negative, body) := match s with
    | '-' :: rest => (true, rest)
    | '+' :: rest => (false, rest)
    | _ => (false, s)
  let word := String.ofList (body.map Char.toLower)
  let size :=
    if word = "inf" ∨ word = "infinity" then some (1.0 / 0.0)
    else if word = "nan" then some (0.0 / 0.0)
    else (Decimal.readUnsigned? body).map fun (m, e) => Decimal.magnitude m e
  size.map fun x => if negative then -x else x

end Courier
