import Courier.Log.Pattern.Escape

/-! # Classes of a pattern

A class lists characters, ranges and other classes between brackets, and may
be joined from two lists by an operator. Only its form matters and its height,
which says how deep it is nested.

Without the flag `u` the members are characters of ASCII, and there is no class
of all other characters. With letters in any case there are no members at all,
since these would need the table of letters.
-/

namespace Courier.Log.Pattern

/-- The height of a list of parts with these heights; a single part stands for
itself. -/
def heightOf : List Nat → Nat
  | [] => 0
  | [n] => n
  | n :: m :: rest => rest.foldl max (max n m) + 1

/-- What has been read of a class. -/
structure ClassPart where
  /-- Nothing but hyphens has come after the bracket. -/
  fresh : Bool
  /-- The heights of the members since the last operator. -/
  members : List Nat
  /-- The height of what stands before the last operator. -/
  left : Option Nat

namespace ClassPart

def empty : ClassPart := ⟨true, [], none⟩

def height (p : ClassPart) : Nat :=
  match p.left with
  | none => heightOf p.members
  | some n => heightOf [n, heightOf p.members]

def add (p : ClassPart) (height : Nat) : ClassPart :=
  { p with members := height :: p.members }

/-- Begins the list after an operator. -/
def operate (p : ClassPart) : ClassPart :=
  ⟨false, [], some p.height⟩

end ClassPart

def classNames : List String :=
  ["alnum", "alpha", "ascii", "blank", "cntrl", "digit", "graph", "lower", "print", "punct",
    "space", "upper", "word", "xdigit"]

/-- A class that is named between colons, after its bracket: whether it is
negated, and the rest of the text. -/
def readNamedClass? (s : List Char) : Option (Bool × List Char) := do
  let (negated, body) ← match s with
    | ':' :: '^' :: rest => some (true, rest)
    | ':' :: rest => some (false, rest)
    | _ => none
  let name := body.takeWhile fun c => c ≠ ':'
  match body.dropWhile fun c => c ≠ ':' with
  | ':' :: ']' :: rest =>
      if String.ofList name ∈ classNames then some (negated, rest) else none
  | _ => none

/-- A character can be listed. -/
def isMember (f : Flags) (c : Char) : Bool :=
  if f.unicode then !f.anyCase else c.toNat < 0x80

/-- There can be the class of all other characters. -/
def negates (f : Flags) (negated : Bool) : Bool :=
  f.unicode || !negated

/-- One member of a class; `none` for a class of its own. -/
def readMember? (f : Flags) : List Char → Option (Option Char × List Char)
  | [] => none
  | '\\' :: rest =>
      match readEscape? f rest with
      | some (.char c, rest) => if isMember f c then some (some c, rest) else none
      | some (.charClass negated, rest) => if negates f negated then some (none, rest) else none
      | _ => none
  | c :: rest => if isMember f c then some (some c, rest) else none

/-- A member, or a range between two. A hyphen before the end of the class or
before another hyphen makes no range. -/
def readRange? (f : Flags) (s : List Char) : Option (List Char) := do
  let (first, rest) ← readMember? f s
  match f.skip rest with
  | [] => none
  | c :: more =>
      if c ≠ '-' || f.peek? more ∈ [some ']', some '-'] then return c :: more
      match first, ← readMember? f (f.skip more) with
      | some a, (some b, rest) => if a ≤ b then return rest else none
      | _, _ => none

/-- Whether a class opens with a caret, and what follows. -/
def readCaret (f : Flags) (s : List Char) : Bool × List Char :=
  match f.skip s with
  | '^' :: rest => (true, rest)
  | s => (false, s)

def isOperator (c : Char) (rest : List Char) : Bool :=
  c ∈ ['&', '-', '~'] && rest.head? = some c

/-- Reads a class to its end, and tells its height. The parts `outer` are
those of the classes around it. Each step takes a character, so the length of
the text is enough fuel. -/
def readClass? (f : Flags) :
    Nat → ClassPart → List ClassPart → List Char → Option (Nat × List Char)
  | 0, _, _, _ => none
  | fuel + 1, part, outer, s =>
      match f.skip s with
      | [] => none
      | c :: rest =>
          if part.fresh && (c = '-' || (c = ']' && part.members = [])) then
            -- What comes first stands for itself.
            if isMember f c then
              readClass? f fuel { part.add 0 with fresh := c = '-' } outer rest
            else none
          else
            let part := { part with fresh := false }
            if c = ']' then
              match outer with
              | [] => some (part.height + 1, rest)
              | next :: outer => readClass? f fuel (next.add (part.height + 1)) outer rest
            else if isOperator c rest then readClass? f fuel part.operate outer (rest.drop 1)
            else if c = '[' then
              match readNamedClass? rest with
              | some (negated, rest) =>
                  if negates f negated && !f.needsTable then
                    readClass? f fuel (part.add 0) outer rest
                  else none
              | none =>
                  let (negated, rest) := readCaret f rest
                  if negates f negated then readClass? f fuel .empty (part :: outer) rest
                  else none
            else (readRange? f (c :: rest)).bind (readClass? f fuel (part.add 0) outer)

/-- Reads what follows an opening bracket. -/
def enterClass? (f : Flags) (s : List Char) : Option (Nat × List Char) :=
  let (negated, rest) := readCaret f s
  if negates f negated then readClass? f (rest.length + 1) .empty [] rest else none

end Courier.Log.Pattern
