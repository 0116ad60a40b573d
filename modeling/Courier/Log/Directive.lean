import Courier.Binary64.Decimal
import Courier.Log.Level
import Courier.Log.Pattern
import Courier.Text.Blank

/-! # Directives

A directive sets a level for records with some target, within some span, or
with some field. It is written as `target[span{field=value}]=level`, where
every part may be missing; a level may also stand by itself.

Blanks at either end do not count when the parts are told apart, but the parts
are cut from the text as it stands, at places that are counted in bytes. With
blanks in front they begin too early, and perhaps within a character.
-/

namespace Courier.Log

/-- What a record has to hold. -/
structure FieldTest where
  name : String
  /-- The value matters as well. -/
  hasValue : Bool
  deriving DecidableEq, Repr

structure Directive where
  /-- How the targets begin, unless all are meant. -/
  target : Option String
  /-- The name of a span within which the records lie. -/
  span : Option String
  field : Option FieldTest
  level : Level
  deriving DecidableEq, Repr

/-- Why a text is not read as a directive. -/
inductive DirectiveError where
  /-- The text has not the form of a directive. -/
  | malformed
  /-- A part would begin or end within a character. Nobody can go on after
  that. -/
  | splitCharacter
  deriving DecidableEq, Repr

/-! ## Cutting -/

/-- Drops so many bytes, if a character begins after them. -/
def dropBytes? : Nat → List Char → Option (List Char)
  | 0, s => some s
  | _ + 1, [] => none
  | n + 1, c :: rest => if c.utf8Size ≤ n + 1 then dropBytes? (n + 1 - c.utf8Size) rest else none

/-- Takes so many bytes, if a character ends with them. -/
def takeBytes? : Nat → List Char → Option (List Char)
  | 0, _ => some []
  | _ + 1, [] => none
  | n + 1, c :: rest =>
      if c.utf8Size ≤ n + 1 then (takeBytes? (n + 1 - c.utf8Size) rest).map (c :: ·) else none

/-- The part of a text after a place. -/
def cutFrom (s : List Char) (first : Nat) : Except DirectiveError (List Char) :=
  match dropBytes? first s with
  | some part => .ok part
  | none => .error .splitCharacter

/-- The part of a text between two places. -/
def cut (s : List Char) (first last : Nat) : Except DirectiveError (List Char) :=
  match (dropBytes? first s).bind (takeBytes? (last - first)) with
  | some part => .ok part
  | none => .error .splitCharacter

namespace FieldTest

/-- A value is a word or number, or a pattern. -/
def isValue (s : List Char) : Bool :=
  (readFloat? s).isSome || Pattern.isPattern s

/-- Reads a name, and a value after an equals sign. A second equals sign ends
the value. -/
def read (s : List Char) : Except DirectiveError FieldTest :=
  let name := String.ofList (s.takeWhile (· ≠ '='))
  match s.dropWhile (· ≠ '=') with
  | _ :: rest =>
      if isValue (rest.takeWhile (· ≠ '=')) then .ok ⟨name, true⟩ else .error .malformed
  | [] => if s = [] then .error .malformed else .ok ⟨name, false⟩

end FieldTest

namespace Directive

/-- Lets everything through. -/
def whole : Directive := ⟨none, none, none, .trace⟩

/-- Which part of a directive a place belongs to, and where it begins. -/
inductive Part where
  | start
  | targetOrLevel
  | span (first : Nat)
  | field (first : Nat)
  | afterField
  | afterSpan
  | level (first : Nat)

def isStart (c : Char) : Bool :=
  Text.isAlphanumeric c || c ∈ ['-', ':', '_']

/-- What the character `c` at the place `i` of the text `s` says. -/
def step (s : List Char) (i : Nat) (c : Char) (d : Directive) :
    Part → Except DirectiveError (Part × Directive)
  | .start =>
      if c = '[' then .ok (.span (i + 1), d)
      else if isStart c then .ok (.targetOrLevel, d)
      else .error .malformed
  | .targetOrLevel =>
      if c = '=' ∨ c = '[' then do
        let target ← cut s 0 i
        let part := if c = '=' then Part.level (i + 1) else .span (i + 1)
        return (part, { d with target := some (String.ofList target) })
      else .ok (.targetOrLevel, d)
  | .span first =>
      if c = ']' then do
        let name ← cut s first i
        return (.afterSpan, { d with span := some (String.ofList name) })
      else if c = '\x7b' then do
        let name ← cut s first i
        let span := if name = [] then none else some (String.ofList name)
        return (.field (i + 1), { d with span := span })
      else .ok (.span first, d)
  | .field first =>
      if c = '\x7d' then do
        let test ← FieldTest.read (← cut s first i)
        return (.afterField, { d with field := some test })
      else .ok (.field first, d)
  | .afterField => if c = ']' then .ok (.afterSpan, d) else .error .malformed
  | .afterSpan => if c = '=' then .ok (.level (i + 1), d) else .error .malformed
  | .level first => .ok (.level first, d)

/-- The end of the text. Without a level everything is let through. -/
def finish (s : List Char) (d : Directive) : Part → Except DirectiveError Directive
  | .targetOrLevel =>
      match Level.read? s with
      | some l => .ok { d with level := l }
      | none => .ok { d with target := some (String.ofList s) }
  | .afterSpan => .ok d
  | .level first => do
      match ← cutFrom s first with
      | [] => return d
      | level =>
          match Level.read? level with
          | some l => return { d with level := l }
          | none => .error .malformed
  | _ => .error .malformed

def readFrom (s : List Char) (i : Nat) (p : Part) (d : Directive) :
    List Char → Except DirectiveError Directive
  | [] => d.finish s p
  | c :: rest => do
      let (p, d) ← d.step s i c p
      readFrom s (i + c.utf8Size) p d rest

def read (s : List Char) : Except DirectiveError Directive :=
  readFrom s 0 .start whole (Text.trim s)

end Directive

end Courier.Log
