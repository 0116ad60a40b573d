import Courier.Log.Directive

/-! # Log filters

A filter is a list of directives. For a record the most specific directive
counts whose target begins that of the record and whose field the record has.
Directives for spans and for values of fields are about what happens within
spans; the records here lie outside of all.
-/

namespace Courier.Log

namespace Directive

/-- The directive is about records outside of spans. -/
def isFree (d : Directive) : Bool :=
  d.span.isNone && !(d.field.map (·.hasValue)).getD false

/-- The directive is for a record with this target and these fields. -/
def isFor (d : Directive) (target : String) (fields : List String) : Bool :=
  ((d.target.map fun t => t.toList.isPrefixOf target.toList)).getD true &&
    (d.field.map fun t => fields.contains t.name).getD true

/-- Longer targets are more specific. -/
def reach (d : Directive) : Nat :=
  (d.target.map fun t => t.utf8ByteSize + 1).getD 0

/-- Among directives for one record: `a` is not more specific than `b`. Next
to the length of the target counts whether there is a field, and then the
order of the names. -/
def le (a b : Directive) : Bool :=
  if a.reach = b.reach then
    match a.field, b.field with
    | none, _ => true
    | some _, none => false
    | some s, some t => s.name ≤ t.name
  else a.reach < b.reach

end Directive

abbrev Filter := List Directive

namespace Filter

/-- The parts of a text between commas that are not empty. -/
def parts (s : String) : List (List Char) :=
  (go s.toList).filter (· ≠ [])
where
  go : List Char → List (List Char)
    | [] => [[]]
    | ',' :: rest => [] :: go rest
    | c :: rest =>
        match go rest with
        | [] => [[c]]
        | part :: more => (c :: part) :: more

/-- Without directives only errors are let through. -/
def orErrors (f : Filter) : Filter :=
  if f.isEmpty then [{ Directive.whole with level := .error }] else f

/-- Reads a filter all of whose directives can be read. -/
def read (s : String) : Except DirectiveError Filter := do
  return orErrors (← (parts s).mapM Directive.read)

/-- Reads the directives that have the form of one. -/
def readAllOf : List (List Char) → Except DirectiveError (List Directive)
  | [] => .ok []
  | part :: rest =>
      match Directive.read part with
      | .ok d => do return d :: (← readAllOf rest)
      | .error .malformed => readAllOf rest
      | .error .splitCharacter => .error .splitCharacter

/-- Reads a filter, and leaves out what has not the form of a directive. -/
def readLossy (s : String) : Except DirectiveError Filter := do
  return orErrors (← readAllOf (parts s))

/-- The directive that counts for a record; of two that are equally specific,
the later. -/
def directive? (f : Filter) (target : String) (fields : List String) : Option Directive :=
  (f.filter fun d => d.isFree && d.isFor target fields).foldl
    (fun best d =>
      match best with
      | some b => if b.le d then some d else best
      | none => some d) none

/-- A record with this level, target and fields is let through. -/
def lets (f : Filter) (level : Level) (target : String) (fields : List String) : Bool :=
  match f.directive? target fields with
  | some d => level.rank ≤ d.level.rank
  | none => false

end Filter

end Courier.Log
