import Courier.Binary64.Decimal

/-! # Shortest decimals

Of the decimals that are read back as a given double, the one with the
fewest digits is written; of several with as many digits, the nearest; and of
two that are equally near, the one further from zero. The search runs over
exact natural numbers: a double is `m · 2 ^ q`, and the decimals that read
back as it form an interval around it.
-/

namespace Courier

/-- A positive finite double `m · 2 ^ q`. -/
structure BinaryFraction where
  m : Nat
  q : Int

namespace BinaryFraction

/-- The bit in front of the 52 stored ones. -/
def leadingBit : Nat := 4503599627370496

/-- Decodes the magnitude of a finite double; zero has `m = 0`. -/
def ofBits (bits : UInt64) : BinaryFraction :=
  let fraction := bits.toNat % leadingBit
  let biased := bits.toNat / leadingBit % 2048
  if biased = 0 then ⟨fraction, -1074⟩
  else ⟨fraction + leadingBit, Int.ofNat biased - 1075⟩

/-- Numerator and denominator of `b ^ e`. -/
def power (b : Nat) (e : Int) : Nat × Nat :=
  if 0 ≤ e then (Nat.pow b e.natAbs, 1) else (1, Nat.pow b e.natAbs)

/-- The exponent of the first decimal digit of the value. -/
def leadingExponent (x : BinaryFraction) : Int :=
  let (num, den) := power 2 x.q
  ((Nat.toDigits 10 (x.m * num * Nat.pow 10 400 / den)).length : Int) - 401

/-- In quarters of `2 ^ q`: the value and the two ends of its interval. The
lower end is closer when the value is the least of its binade. -/
def quarters (x : BinaryFraction) : Nat × Nat × Nat :=
  let below := if x.m = leadingBit ∧ -1074 < x.q then 1 else 2
  (4 * x.m, 4 * x.m - below, 4 * x.m + 2)

/-- Whether `c · 10 ^ g` is read back as the value, and its distance from it
in a unit that depends on `g` alone. -/
def distance? (x : BinaryFraction) (c : Nat) (g : Int) : Option Nat :=
  let (value, low, high) := x.quarters
  let (twoNum, twoDen) := power 2 (x.q - 2)
  let (tenNum, tenDen) := power 10 g
  let unit := twoNum * tenDen
  let point := c * tenNum * twoDen
  -- A tie is read back as the even significand, so the ends count with it.
  let inside :=
    if x.m % 2 = 0 then low * unit ≤ point ∧ point ≤ high * unit
    else low * unit < point ∧ point < high * unit
  if inside then some (point - value * unit + (value * unit - point)) else none

/-- The nearer of the two neighbours on the grid of `10 ^ g` that read back
as the value; the upper one if both are equally near. -/
def onGrid? (x : BinaryFraction) (g : Int) : Option Nat :=
  let (twoNum, twoDen) := power 2 x.q
  let (tenNum, tenDen) := power 10 g
  let lower := x.m * twoNum * tenDen / (twoDen * tenNum)
  match x.distance? lower g, x.distance? (lower + 1) g with
  | some below, some above => if below < above then some lower else some (lower + 1)
  | some _, none => some lower
  | none, some _ => some (lower + 1)
  | none, none => none

/-- Tries grids from one digit up to seventeen. -/
def search (x : BinaryFraction) (first : Int) : Nat → Nat × Int
  | 0 => (x.m, 0)
  | tries + 1 =>
      let g := first - (16 - tries)
      match x.onGrid? g with
      | some c => (c, g)
      | none => search x first tries

/-- Significand and exponent of the shortest decimal. -/
def shortest (x : BinaryFraction) : Nat × Int :=
  x.search x.leadingExponent 17

end BinaryFraction

/-- Positional notation of `c · 10 ^ g`, without a point for whole numbers. -/
def positional (c : Nat) (g : Int) : List Char :=
  if 0 ≤ g then Nat.toDigits 10 (c * Nat.pow 10 g.natAbs)
  else
    let scale := Nat.pow 10 g.natAbs
    let fraction := (Text.padded g.natAbs (c % scale)).reverse.dropWhile (· = '0')
    let whole := Nat.toDigits 10 (c / scale)
    if fraction = [] then whole else whole ++ '.' :: fraction.reverse

/-- A double in plain positional notation with the fewest digits. -/
def floatText (x : Float) : String :=
  if x.isNaN then "NaN"
  else
    let sign := if x.toBits >>> 63 = 1 then "-" else ""
    let size := BinaryFraction.ofBits x.toBits
    if x.isInf then sign ++ "inf"
    else if size.m = 0 then sign ++ "0"
    else
      let (c, g) := size.shortest
      sign ++ String.ofList (positional c g)

end Courier
