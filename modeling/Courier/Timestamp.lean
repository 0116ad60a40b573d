import Courier.Text.Blank
import Courier.Text.Numeral

/-! # Timestamps

A moment in UTC by calendar and clock, to the nanosecond. A second 60 is a
leap second. The years reach from -262143 to 262142.
-/

namespace Courier

def isLeapYear (y : Int) : Bool :=
  y % 4 = 0 && (y % 100 ≠ 0 || y % 400 = 0)

def daysInMonth (y : Int) (m : Nat) : Nat :=
  if m = 2 then if isLeapYear y then 29 else 28
  else if m = 4 ∨ m = 6 ∨ m = 9 ∨ m = 11 then 30
  else 31

structure Timestamp where
  year : Int
  month : Nat
  day : Nat
  hour : Nat
  minute : Nat
  second : Nat
  nanosecond : Nat
  year_inRange : -262143 ≤ year ∧ year ≤ 262142
  month_inRange : 1 ≤ month ∧ month ≤ 12
  day_inRange : 1 ≤ day ∧ day ≤ daysInMonth year month
  hour_lt : hour < 24
  minute_lt : minute < 60
  second_le : second ≤ 60
  nanosecond_lt : nanosecond < 1000000000
  deriving DecidableEq

namespace Timestamp

/-- Midnight at the start of 2024. -/
def newYear2024 : Timestamp :=
  ⟨2024, 1, 1, 0, 0, 0, 0, by decide, by decide, by decide, by decide, by decide, by decide,
    by decide⟩

instance : Inhabited Timestamp := ⟨newYear2024⟩

/-- The moment with these components, if there is one. -/
def ofComponents? (year : Int) (month day hour minute second nanosecond : Nat) :
    Option Timestamp :=
  if h : (-262143 ≤ year ∧ year ≤ 262142) ∧ (1 ≤ month ∧ month ≤ 12) ∧
      (1 ≤ day ∧ day ≤ daysInMonth year month) ∧ hour < 24 ∧ minute < 60 ∧ second ≤ 60 ∧
      nanosecond < 1000000000 then
    some ⟨year, month, day, hour, minute, second, nanosecond, h.1, h.2.1, h.2.2.1, h.2.2.2.1,
      h.2.2.2.2.1, h.2.2.2.2.2.1, h.2.2.2.2.2.2⟩
  else none

/-- Components from the most to the least significant. -/
def components (t : Timestamp) : List Int :=
  [t.year, t.month, t.day, t.hour, t.minute, t.second, t.nanosecond]

def isBefore (a b : Timestamp) : Bool :=
  a.components < b.components

/-- The calendar day before a day, as year, month and day. -/
def previousDay (year : Int) (month day : Nat) : Int × Nat × Nat :=
  if 1 < day then (year, month, day - 1)
  else if 1 < month then (year, month - 1, daysInMonth year (month - 1))
  else (year - 1, 12, 31)

def nextDay (year : Int) (month day : Nat) : Int × Nat × Nat :=
  if day < daysInMonth year month then (year, month, day + 1)
  else if month < 12 then (year, month + 1, 1)
  else (year + 1, 1, 1)

/-- The moment `offset` minutes earlier, less than a day away. -/
def earlier? (t : Timestamp) (offset : Int) : Option Timestamp :=
  -- Less than a day away, so at most one midnight lies between.
  let minutes := (t.hour * 60 + t.minute : Int) - offset
  let (year, month, day) :=
    if minutes < 0 then previousDay t.year t.month t.day
    else if 1440 ≤ minutes then nextDay t.year t.month t.day
    else (t.year, t.month, t.day)
  let ofDay := (minutes % 1440).toNat
  ofComponents? year month day (ofDay / 60) (ofDay % 60) t.second t.nanosecond

/-- Four digits, or a sign and at least four where that is not enough. -/
def yearText (y : Int) : List Char :=
  if 0 ≤ y ∧ y ≤ 9999 then Text.padded 4 y.natAbs
  else (if y < 0 then '-' else '+') :: Text.padded 4 y.natAbs

/-- The fraction of a second with the fewest of 0, 3, 6 or 9 digits that is
exact. -/
def fractionText (nanosecond : Nat) : List Char :=
  if nanosecond = 0 then []
  else if nanosecond % 1000000 = 0 then '.' :: Text.padded 3 (nanosecond / 1000000)
  else if nanosecond % 1000 = 0 then '.' :: Text.padded 6 (nanosecond / 1000)
  else '.' :: Text.padded 9 nanosecond

def chars (t : Timestamp) : List Char :=
  yearText t.year ++ '-' :: Text.padded 2 t.month ++ '-' :: Text.padded 2 t.day ++
    'T' :: Text.padded 2 t.hour ++ ':' :: Text.padded 2 t.minute ++
    ':' :: Text.padded 2 t.second ++ fractionText t.nanosecond ++ ['Z']

def text (t : Timestamp) : String :=
  String.ofList t.chars

/-- At most `width` digits in front, at least one, and what follows. -/
def readDigits? (width : Nat) (s : List Char) : Option (Nat × List Char) :=
  let ds := (Text.leadingDigits s).take width
  if ds = [] then none else some (Text.digitsValue ds, s.drop ds.length)

/-- A number of at most two digits after blanks. -/
def readTwo? (s : List Char) : Option (Nat × List Char) :=
  readDigits? 2 (Text.trimStart s)

/-- A year has up to four digits, or any number of them after a sign. -/
def readYear? (s : List Char) : Option (Int × List Char) :=
  match Text.trimStart s with
  | '-' :: rest => (readDigits? rest.length rest).map fun (n, r) => (-(n : Int), r)
  | '+' :: rest => (readDigits? rest.length rest).map fun (n, r) => ((n : Int), r)
  | rest => (readDigits? 4 rest).map fun (n, r) => ((n : Int), r)

/-- Expects a mark after blanks. -/
def readMark? (mark : Char) (s : List Char) : Option (List Char) :=
  match Text.trimStart s with
  | c :: rest => if c = mark then some rest else none
  | [] => none

def readSeparator? : List Char → Option (List Char)
  | c :: rest => if c = 'T' ∨ c = 't' ∨ c = ' ' then some rest else none
  | [] => none

/-- Nanoseconds after a point; digits beyond the ninth do not count. -/
def readFraction? : List Char → Option (Nat × List Char)
  | '.' :: rest =>
      let ds := (Text.leadingDigits rest).take 9
      if ds = [] then none
      else some (Text.digitsValue ds * Nat.pow 10 (9 - ds.length), Text.afterDigits rest)
  | s => some (0, s)

/-- Hours and minutes of an offset, in minutes. -/
def readOffsetSize? : List Char → Option (Nat × List Char)
  | a :: b :: rest =>
      match rest.dropWhile fun c => c = ':' || Text.isBlank c with
      | c :: d :: rest =>
          if [a, b, c, d].all Char.isDigit ∧ c < '6' then
            some (Text.digitsValue [a, b] * 60 + Text.digitsValue [c, d], rest)
          else none
      | _ => none
  | _ => none

/-- The offset from UTC in minutes. -/
def readOffset? (s : List Char) : Option (Int × List Char) :=
  match s with
  | [] => none
  | c :: rest =>
      if (s.take 3).map Char.toUpper = ['U', 'T', 'C'] then some (0, s.drop 3)
      else if c = 'Z' ∨ c = 'z' then some (0, rest)
      else if c = '+' then (readOffsetSize? rest).map fun (n, r) => ((n : Int), r)
      else if c = '-' ∨ c = '\u2212' then (readOffsetSize? rest).map fun (n, r) => (-(n : Int), r)
      else none

/-- Reads date, time and offset. Blanks may stand around the numbers and at
the end; date and time are separated by `T` or a space. -/
def readChars? (s : List Char) : Option Timestamp := do
  let (year, s) ← readYear? s
  let s ← readMark? '-' s
  let (month, s) ← readTwo? s
  let s ← readMark? '-' s
  let (day, s) ← readTwo? s
  let s ← readSeparator? s
  let (hour, s) ← readTwo? s
  let s ← readMark? ':' s
  let (minute, s) ← readTwo? s
  let s ← readMark? ':' s
  let (second, s) ← readTwo? s
  let (nanosecond, s) ← readFraction? s
  let (offset, s) ← readOffset? (Text.trimStart s)
  if (Text.trimStart s).isEmpty ∧ offset.natAbs < 1440 then
    let t ← ofComponents? year month day hour minute second nanosecond
    t.earlier? offset
  else none

def read? (s : String) : Option Timestamp :=
  readChars? s.toList

end Timestamp

end Courier
