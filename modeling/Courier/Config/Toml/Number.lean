import Courier.Binary64.Decimal
import Courier.Text.Hexadecimal

/-! # Numbers in TOML

Whole numbers in four bases, which have to fit in 64 bits with sign, and
decimal fractions. Single underscores may stand between digits.
-/

namespace Courier.Config.Toml

/-- Digits with single underscores between them. -/
def readDigits? (isDigit : Char → Bool) : List Char → Option (List Char)
  | [] => none
  | c :: rest =>
      if isDigit c then
        match rest with
        | [] => some [c]
        | '_' :: rest => (readDigits? isDigit rest).map (c :: ·)
        | rest => (readDigits? isDigit rest).map (c :: ·)
      else none

/-- Decimal digits without zeros in front. -/
def readWhole? (s : List Char) : Option (List Char) :=
  match readDigits? Char.isDigit s with
  | some ('0' :: _ :: _) => none
  | ds => ds

def isHexDigit (c : Char) : Bool :=
  (Text.hexValue? c).isSome

/-- The number that digits of a base stand for. -/
def ofDigits (base : Nat) (ds : List Char) : Nat :=
  ds.foldl (fun n c => n * base + (Text.hexValue? c).getD 0) 0

def readNatural? : List Char → Option Nat
  | '0' :: 'x' :: rest => (readDigits? isHexDigit rest).map (ofDigits 16)
  | '0' :: 'o' :: rest =>
      (readDigits? (fun c => '0' ≤ c && c ≤ '7') rest).map (ofDigits 8)
  | '0' :: 'b' :: rest =>
      (readDigits? (fun c => c = '0' || c = '1') rest).map (ofDigits 2)
  | s => (readWhole? s).map (ofDigits 10)

/-- A sign and what follows it. -/
def splitSign : List Char → Option Char × List Char
  | '+' :: rest => (some '+', rest)
  | '-' :: rest => (some '-', rest)
  | s => (none, s)

/-- Signed numbers are decimal; all have to fit in 64 bits. -/
def readInteger? (s : List Char) : Option Int := do
  let (sign, body) := splitSign s
  let n : Int ← if sign.isNone then (readNatural? body).map Int.ofNat
    else (readWhole? body).map fun ds => (ofDigits 10 ds : Int)
  let n := if sign = some '-' then -n else n
  if Text.fitsSigned n then some n else none

def isExponentMark (c : Char) : Bool :=
  c = 'e' || c = 'E'

def isAboveAll (x : Float) : Bool :=
  x.isInf && 0 < x

/-- A fraction, an exponent or both, with digits on either side of the point,
or one of the words `inf` and `nan`. Digits may stand for a number below all
doubles, but not for one above them. -/
def readReal? (s : List Char) : Option Float := do
  let (sign, body) := splitSign s
  let sign := if sign = some '-' then ['-'] else []
  if body = ['i', 'n', 'f'] ∨ body = ['n', 'a', 'n'] then readFloat? (sign ++ body)
  else
    let mantissa := body.takeWhile fun c => !isExponentMark c
    let whole ← readWhole? (mantissa.takeWhile (· ≠ '.'))
    let fraction ← match mantissa.dropWhile (· ≠ '.') with
      | '.' :: rest => (readDigits? Char.isDigit rest).map ('.' :: ·)
      | _ => some []
    let exponent ← match body.dropWhile fun c => !isExponentMark c with
      | _ :: rest =>
          let (sign, digits) := splitSign rest
          (readDigits? Char.isDigit digits).map fun ds => 'e' :: sign.toList ++ ds
      | [] => some []
    if fraction = [] ∧ exponent = [] then none
    else (readFloat? (sign ++ whole ++ fraction ++ exponent)).filter fun x => !isAboveAll x

end Courier.Config.Toml
