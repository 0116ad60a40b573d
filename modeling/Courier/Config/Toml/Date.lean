import Courier.Text.Numeral

/-! # Dates in TOML

A date, a time of day, or both with an optional offset. They are kept as text
in a form that does not depend on how they were written. How far hours and
offsets go depends on where the date stands.
-/

namespace Courier.Config.Toml

/-- The greatest numbers of a time and of an offset. -/
structure DateBounds where
  hour : Nat
  offsetHour : Nat
  offsetMinute : Nat

namespace DateBounds

/-- Of a date that stands by itself. -/
def plain : DateBounds := ⟨23, 23, 59⟩

/-- Of a date within a string. The offset is no longer than a day. -/
def quoted : DateBounds := ⟨24, 99, 99⟩

end DateBounds

def minutesPerDay : Nat := 1440

/-- Reads a number of `width` digits between two bounds. -/
def readField? (width least most : Nat) (s : List Char) : Option (Nat × List Char) := do
  let n ← Text.readNat? (s.take width)
  if (s.take width).length = width ∧ least ≤ n ∧ n ≤ most then some (n, s.drop width) else none

def readMark? (c : Char) : List Char → Option (List Char)
  | d :: rest => if d = c then some rest else none
  | [] => none

def isLeap (year : Nat) : Bool :=
  year % 4 = 0 && (year % 100 ≠ 0 || year % 400 = 0)

def daysIn (year month : Nat) : Nat :=
  if month = 2 then if isLeap year then 29 else 28
  else if month ∈ [4, 6, 9, 11] then 30
  else 31

/-- A day, and what follows it. -/
def readDate? (s : List Char) : Option (List Char × List Char) := do
  let (year, rest) ← readField? 4 0 9999 s
  let (month, rest) ← readField? 2 1 12 (← readMark? '-' rest)
  let (day, rest) ← readField? 2 1 (daysIn year month) (← readMark? '-' rest)
  return (Text.padded 4 year ++ '-' :: Text.padded 2 month ++ '-' :: Text.padded 2 day, rest)

/-- The digits of a second after the point, of which nine count; zeros at the
end are dropped. -/
def secondFraction (digits : List Char) : List Char :=
  match ((digits.take 9).reverse.dropWhile (· = '0')).reverse with
  | [] => []
  | ds => '.' :: ds

def readFraction? : List Char → Option (List Char × List Char)
  | '.' :: rest =>
      match Text.leadingDigits rest with
      | [] => none
      | ds => some (secondFraction ds, Text.afterDigits rest)
  | s => some ([], s)

/-- A time of day, and what follows it. -/
def readTime? (b : DateBounds) (s : List Char) : Option (List Char × List Char) := do
  let (hour, rest) ← readField? 2 0 b.hour s
  let (minute, rest) ← readField? 2 0 59 (← readMark? ':' rest)
  let (second, rest) ← readField? 2 0 60 (← readMark? ':' rest)
  let (fraction, rest) ← readFraction? rest
  return (Text.padded 2 hour ++ ':' :: Text.padded 2 minute ++ ':' :: Text.padded 2 second
    ++ fraction, rest)

/-- The distance from universal time. An offset without length is written with
a plus sign. -/
def readOffset? (b : DateBounds) : List Char → Option (List Char)
  | [] => some []
  | ['Z'] => some ['Z']
  | ['z'] => some ['Z']
  | sign :: rest =>
      if sign = '+' ∨ sign = '-' then do
        let (hour, rest) ← readField? 2 0 b.offsetHour rest
        let (minute, rest) ← readField? 2 0 b.offsetMinute (← readMark? ':' rest)
        let total := 60 * hour + minute
        let sign := if total = 0 then '+' else sign
        if rest = [] ∧ total ≤ minutesPerDay then
          some (sign :: Text.padded 2 (total / 60) ++ ':' :: Text.padded 2 (total % 60))
        else none
      else none

/-- Reads the time and the offset that may follow a date. -/
def readTimeOfDate? (b : DateBounds) (s : List Char) : Option (List Char) := do
  let (time, rest) ← readTime? b s
  return 'T' :: time ++ (← readOffset? b rest)

/-- Reads a text that is a date, a time of day, or both. -/
def readMoment? (b : DateBounds) (s : List Char) : Option (List Char) :=
  match readDate? s with
  | some (date, []) => some date
  | some (date, mark :: rest) =>
      if mark = 'T' ∨ mark = 't' ∨ mark = ' ' then (readTimeOfDate? b rest).map (date ++ ·)
      else none
  | none =>
      match readTime? b s with
      | some (time, []) => some time
      | _ => none

end Courier.Config.Toml
