import Courier.Json.Value
import Courier.Text.Numeral

/-! # JSON numbers

The double of a literal with point or exponent is computed from as many
leading digits as fit in 64 bits, scaled once by a power of ten; it is not
always the nearest double. Digits of the whole part that do not fit raise the
exponent instead, digits of the fraction that do not fit are ignored.
-/

namespace Courier.Json

/-- Significands stay below this. -/
def capacity : Nat := UInt64.size

/-- The leading digits that fit, and how many were left out after them. -/
def takeWhole (significand : Nat) : List Char → Nat × Nat
  | [] => (significand, 0)
  | d :: rest =>
      let next := significand * 10 + Text.digitsValue [d]
      if next < capacity then takeWhole next rest else (significand, rest.length + 1)

/-- Adds the digits of a fraction as long as they fit, and counts them. -/
def takeFraction (significand : Nat) : List Char → Nat × Nat
  | [] => (significand, 0)
  | d :: rest =>
      let next := significand * 10 + Text.digitsValue [d]
      if next < capacity then
        let (s, count) := takeFraction next rest
        (s, count + 1)
      else (significand, 0)

def tenTo (n : Nat) : Float :=
  Float.ofScientific 1 false n

/-- Scales by a power of ten, in several divisions where one is out of range;
`none` beyond the largest double. -/
def scale (x : Float) (exponent : Int) : Nat → Option Float
  | 0 => some x
  | steps + 1 =>
      if exponent.natAbs ≤ 308 then
        if 0 ≤ exponent then
          let y := x * tenTo exponent.natAbs
          if y.isInf then none else some y
        else some (x / tenTo exponent.natAbs)
      else if x == 0.0 then some x
      else if 0 ≤ exponent then none
      else scale (x / tenTo 308) (exponent + 308) steps

/-- The parts of a number literal. -/
structure Literal where
  negative : Bool
  whole : List Char
  fraction : List Char
  exponent : Option Int

namespace Literal

def exponentLimit : Int := 2147483647

/-- The value with point or exponent, or of a whole number that is too long. -/
def real? (l : Literal) : Option Float :=
  let (kept, left) := takeWhole 0 l.whole
  let (significand, count) := takeFraction kept l.fraction
  let written := l.exponent.getD 0
  let exponent := (left : Int) - count + written
  let size :=
    if exponentLimit < written.natAbs then
      if significand = 0 ∨ written < 0 then some 0.0 else none
    else scale significand.toUInt64.toFloat exponent 8
  size.map fun x => if l.negative then -x else x

/-- A literal stands for a whole number if it has neither point nor exponent
and fits. A negative zero is a double. -/
def value? (l : Literal) : Option Number :=
  let n := Text.digitsValue l.whole
  if l.fraction ≠ [] ∨ l.exponent.isSome then l.real?.map .real
  else if l.negative then
    if 0 < n ∧ n ≤ Text.signedBound then some (.whole (-n)) else l.real?.map .real
  else if n < capacity then some (.whole n)
  else l.real?.map .real

/-- Reads the fraction after a point, if there is one. -/
def readFraction? : List Char → Option (List Char × List Char)
  | '.' :: rest =>
      let digits := Text.leadingDigits rest
      if digits = [] then none else some (digits, Text.afterDigits rest)
  | rest => some ([], rest)

/-- Reads an exponent, if there is one. -/
def readExponent? (s : List Char) : Option (Option Int × List Char) :=
  match s with
  | [] => some (none, s)
  | c :: rest =>
      if c = 'e' ∨ c = 'E' then
        let (sign, rest) : Int × List Char := match rest with
          | '+' :: rest => (1, rest)
          | '-' :: rest => (-1, rest)
          | _ => (1, rest)
        let digits := Text.leadingDigits rest
        if digits = [] then none
        else some (some (sign * Text.digitsValue digits), Text.afterDigits rest)
      else some (none, s)

/-- Reads a literal. Only a zero may start with a zero, and a point is followed
by a digit. -/
def read? (s : List Char) : Option (Literal × List Char) := do
  let (negative, s) := match s with
    | '-' :: rest => (true, rest)
    | _ => (false, s)
  let whole := Text.leadingDigits s
  if whole = [] ∨ (whole.head? = some '0' ∧ 1 < whole.length) then none
  let (fraction, s) ← readFraction? (Text.afterDigits s)
  let (exponent, s) ← readExponent? s
  return (⟨negative, whole, fraction, exponent⟩, s)

end Literal

end Courier.Json
