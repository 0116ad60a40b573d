import Courier.Text.Blank

/-! # Flags of a pattern

Flags hold from where they are set to the end of their group. With the flag
`x` a pattern may be spread out: blanks do not count then, and neither do
remarks, which go from a number sign to the end of the line.
-/

namespace Courier.Log.Pattern

/-- The flags on which the form of a pattern depends. -/
structure Flags where
  /-- Classes are those of all characters. -/
  unicode : Bool
  anyCase : Bool
  /-- Blanks and remarks do not count. -/
  spread : Bool
  deriving DecidableEq, Repr

/-- Drops blanks and remarks. The text may begin within a remark. -/
def skipRemarks : Bool → List Char → List Char
  | _, [] => []
  | true, c :: rest => skipRemarks (c ≠ '\n') rest
  | false, c :: rest =>
      if Text.isBlank c then skipRemarks false rest
      else if c = '#' then skipRemarks true rest
      else c :: rest

namespace Flags

def initial : Flags := ⟨true, false, false⟩

def names : List Char := ['i', 'm', 's', 'U', 'u', 'R', 'x']

def set (f : Flags) (name : Char) (on : Bool) : Flags :=
  if name = 'u' then { f with unicode := on }
  else if name = 'i' then { f with anyCase := on }
  else if name = 'x' then { f with spread := on }
  else f

/-- Letters in any case need the table of letters. -/
def needsTable (f : Flags) : Bool :=
  f.unicode && f.anyCase

/-- Drops what does not count in front. -/
def skip (f : Flags) (s : List Char) : List Char :=
  if f.spread then skipRemarks false s else s

/-- The next character that counts. Of a remark the first character counts
that is not blank. -/
def peek? (f : Flags) (s : List Char) : Option Char :=
  if f.spread then
    match Text.trimStart s with
    | '#' :: rest => (Text.trimStart rest).head?
    | rest => rest.head?
  else s.head?

/-- Reads flags up to a colon or a closing parenthesis, which is returned with
the rest. Each flag is named at most once, and a minus sign switches off at
least one. -/
def read? (f : Flags) (on : Bool) (seen : List Char) :
    List Char → Option (Flags × Char × List Char)
  | [] => none
  | c :: rest =>
      if c = ':' || c = ')' then
        if seen.head? = some '-' then none else some (f, c, rest)
      else if c ∈ seen then none
      else if c = '-' then read? f false (c :: seen) rest
      else if c ∈ names then read? (f.set c on) on (c :: seen) rest
      else none

end Flags

end Courier.Log.Pattern
