import Courier.Log.Pattern.Class
import Courier.Text.Alphabetic
import Courier.Text.Alphanumeric

/-! # Patterns

A directive may give a pattern for the value of a field. Of a pattern only the
form is looked at: groups and classes have to be closed, operators of
repetition need something to repeat, and escapes have to be known. It must not
be nested too deep either.

There is no looking around. Nothing that needs a table of letters is known:
neither the classes and places that depend on it, nor letters in any case,
unless the flag `u` is switched off. Patterns stand between braces in a
directive, so there is no counted repetition.
-/

namespace Courier.Log.Pattern

/-- A part of a sequence. -/
structure Item where
  height : Nat
  /-- Flags cannot be repeated. -/
  repeatable : Bool

/-- What has been read of a group, or of the whole. -/
structure Group where
  /-- The flags where the reader stands. -/
  flags : Flags
  /-- The heights of the alternatives that are complete. -/
  alternatives : List Nat
  /-- The items of the present alternative, the last first. -/
  items : List Item

namespace Group

def empty (f : Flags) : Group := ⟨f, [], []⟩

def sequenceHeight (g : Group) : Nat :=
  heightOf (g.items.map (·.height))

def height (g : Group) : Nat :=
  heightOf (g.sequenceHeight :: g.alternatives)

/-- Adds an item of some height. -/
def add (g : Group) (height : Nat) : Group :=
  { g with items := ⟨height, true⟩ :: g.items }

def setFlags (g : Group) (f : Flags) : Group :=
  { g with flags := f, items := ⟨0, false⟩ :: g.items }

/-- Begins another alternative. -/
def alternate (g : Group) : Group :=
  { g with alternatives := g.sequenceHeight :: g.alternatives, items := [] }

/-- Repeats the last item. -/
def again? (g : Group) : Option Group :=
  match g.items with
  | ⟨height, true⟩ :: items => some { g with items := ⟨height + 1, true⟩ :: items }
  | _ => none

end Group

/-- What is known at a place of a pattern. -/
structure State where
  group : Group
  /-- The open groups around it, the innermost first. -/
  outer : List Group
  names : List (List Char)

namespace State

def initial : State := ⟨.empty .initial, [], []⟩

def flags (st : State) : Flags :=
  st.group.flags

def add (st : State) (height : Nat) : State :=
  { st with group := st.group.add height }

def enter (st : State) (f : Flags) : State :=
  { st with group := .empty f, outer := st.group :: st.outer }

/-- Closes a group, whose flags end with it. -/
def leave? (st : State) : Option State :=
  match st.outer with
  | g :: outer => some { st with group := g.add (st.group.height + 1), outer := outer }
  | [] => none

end State

/-- How high a pattern may be. -/
def maxHeight : Nat := 250

/-! ## Groups -/

def isNameStart (c : Char) : Bool :=
  c = '_' || Text.isAlphabetic c

def isNameChar (c : Char) : Bool :=
  Text.isAlphanumeric c || c ∈ ['_', '.', '[', ']']

/-- Enters a group with a name of its own. -/
def enterNamed? (st : State) (s : List Char) : Option (State × List Char) :=
  let name := s.takeWhile isNameChar
  match s.dropWhile isNameChar with
  | '>' :: rest =>
      if (name.head?.map isNameStart).getD false && !st.names.contains name then
        some ({ st.enter st.flags with names := name :: st.names }, rest)
      else none
  | _ => none

/-- Enters a group, or changes the flags of the present one. -/
def enterGroup? (st : State) (s : List Char) : Option (State × List Char) :=
  match st.flags.skip s with
  | '?' :: 'P' :: '<' :: rest => enterNamed? st rest
  | '?' :: '<' :: rest => enterNamed? st rest
  | '?' :: rest =>
      match st.flags.read? true [] rest with
      | some (f, ')', after) =>
          if rest.head? = some ')' then none
          else some ({ st with group := st.group.setFlags f }, after)
      | some (f, _, rest) => some (st.enter f, rest)
      | none => none
  | rest => some (st.enter st.flags, rest)

/-! ## The whole -/

/-- A question mark makes a repetition a short one. -/
def afterRepetition : List Char → List Char
  | '?' :: rest => rest
  | rest => rest

/-- Reads one item, one operator or one parenthesis. -/
def step? (st : State) (c : Char) (rest : List Char) : Option (State × List Char) :=
  if c = '(' then enterGroup? st rest
  else if c = ')' then st.leave?.map (·, rest)
  else if c = '|' then some ({ st with group := st.group.alternate }, rest)
  else if c ∈ ['*', '+', '?'] then
    st.group.again?.map fun g => ({ st with group := g }, afterRepetition rest)
  else if c = '\x7b' then none
  else if c = '[' then
    (enterClass? st.flags rest).map fun (height, rest) => (st.add height, rest)
  else if c = '\\' then
    match readEscape? st.flags rest with
    | some (.char _, rest) => if st.flags.needsTable then none else some (st.add 0, rest)
    | some (.charClass negated, rest) => if negated then none else some (st.add 0, rest)
    | some (.place, rest) => some (st.add 0, rest)
    | none => none
  else if c = '.' then if st.flags.unicode then some (st.add 0, rest) else none
  else if c = '^' || c = '$' then some (st.add 0, rest)
  else if st.flags.needsTable then none
  else some (st.add 0, rest)

/-- Checks the rest of a pattern. Each step takes a character, so the length
of the text is enough fuel. -/
def check : Nat → State → List Char → Bool
  | 0, _, _ => false
  | fuel + 1, st, s =>
      match st.flags.skip s with
      | [] => st.outer.isEmpty && st.group.height ≤ maxHeight
      | c :: rest =>
          match step? st c rest with
          | some (st, rest) => check fuel st rest
          | none => false

/-- The text has the form of a pattern. -/
def isPattern (s : List Char) : Bool :=
  check (s.length + 1) .initial s

end Courier.Log.Pattern
