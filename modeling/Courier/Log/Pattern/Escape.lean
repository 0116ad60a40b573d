import Courier.Log.Pattern.Flags
import Courier.Text.Hexadecimal

/-! # Escapes of a pattern

What a backslash and the characters after it stand for. There is no reference
to a group. The classes `\d`, `\s`, `\w` and `\p` and the ends of words need the
table of letters, unless the flag `u` is off; without it classes are made of
the characters of ASCII.
-/

namespace Courier.Log.Pattern

inductive Escape where
  | char (c : Char)
  | charClass (negated : Bool)
  /-- A place, such as the end of the text. -/
  | place

def charOf? (n : Nat) : Option Char :=
  if h : n.isValidChar then some (Char.ofNatAux n h) else none

/-- The next `count` characters that count. -/
def readCounting? (f : Flags) : Nat → List Char → Option (List Char × List Char)
  | 0, s => some ([], s)
  | count + 1, s =>
      match f.skip s with
      | [] => none
      | c :: rest => (readCounting? f count rest).map fun (cs, rest) => (c :: cs, rest)

/-- A character by its number, of so many digits. -/
def readNumber? (f : Flags) (digits : Nat) (s : List Char) : Option (Char × List Char) := do
  let (ds, rest) ← readCounting? f digits s
  return (← charOf? (← Text.readHex? ds), rest)

/-- Characters that stand for themselves after a backslash. -/
def isSign (c : Char) : Bool :=
  c.toNat < 0x80 && !c.isAlphanum

def controlNames : List Char := ['a', 'f', 't', 'n', 'r', 'v']

/-- Reads what follows a backslash. -/
def readEscape? (f : Flags) : List Char → Option (Escape × List Char)
  | [] => none
  | c :: rest =>
      if c = 'x' then do
        let (x, rest) ← readNumber? f 2 rest
        -- Without the flag this is a byte, and only those of ASCII are characters.
        if f.unicode || x.toNat < 0x80 then some (.char x, rest) else none
      else if c = 'u' then (readNumber? f 4 rest).map fun (x, rest) => (.char x, rest)
      else if c = 'U' then (readNumber? f 8 rest).map fun (x, rest) => (.char x, rest)
      else if c ∈ ['d', 's', 'w'] then
        if f.unicode then none else some (.charClass false, rest)
      else if c ∈ ['D', 'S', 'W'] then
        if f.unicode then none else some (.charClass true, rest)
      else if c ∈ ['b', 'B', '<', '>'] then
        if f.unicode then none else some (.place, rest)
      else if c = 'A' || c = 'z' then some (.place, rest)
      else if c ∈ controlNames || isSign c then some (.char c, rest)
      else none

end Courier.Log.Pattern
