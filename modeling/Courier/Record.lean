/-! # Reading records

A record is read from parts that are given by name or by position. Fields are
read in any order of appearance; if several fail, the failure that comes
first in the source is reported, and absent fields count as failing at the
end, in the order of declaration.
-/

namespace Courier

/-- The parts of a record in order of appearance, with distinct names. -/
structure Parts (σ ε : Type) where
  entries : List (String × σ)
  /-- Given by name rather than by position. -/
  named : Bool
  /-- The error for a field that is absent. -/
  absent : String → ε

namespace Parts

variable {σ ε : Type}

/-- A part and its place among the parts. -/
def find? (p : Parts σ ε) (name : String) : Option (Nat × σ) :=
  go 0 p.entries
where
  go (i : Nat) : List (String × σ) → Option (Nat × σ)
    | [] => none
    | (name', s) :: rest => if name' = name then some (i, s) else go (i + 1) rest

/-- The place at which absent fields are noticed. -/
def finish (p : Parts σ ε) : Nat :=
  p.entries.length + 1

end Parts

/-- An error and the place at which it occurs. -/
structure Failure (ε : Type) where
  position : Nat
  cause : ε

/-- The failure that comes first; of two at one place, the left one. -/
def Failure.first {ε : Type} (a b : Failure ε) : Failure ε :=
  if b.position < a.position then b else a

/-- How to read a record: the names of its fields, and its value from parts. -/
structure Record (σ ε α : Type) where
  names : List String
  read : Parts σ ε → Except (Failure ε) α

namespace Record

variable {σ ε α β : Type}

/-- A single field; `whenNamed` and `whenPlaced` stand in for it where it is
absent from named or positional parts. -/
def field (name : String) (readPart : σ → Except ε α)
    (whenNamed whenPlaced : Option α) : Record σ ε α where
  names := [name]
  read parts :=
    match parts.find? name with
    | some (i, s) =>
        match readPart s with
        | .ok a => .ok a
        | .error e => .error ⟨i, e⟩
    | none =>
        match if parts.named then whenNamed else whenPlaced with
        | some a => .ok a
        | none => .error ⟨parts.finish, parts.absent name⟩

def required (name : String) (readPart : σ → Except ε α) : Record σ ε α :=
  field name readPart none none

def withDefault (name : String) (readPart : σ → Except ε α) (default : α) : Record σ ε α :=
  field name readPart (some default) (some default)

/-- A field that has no value where it is not named. -/
def nullable (name : String) (readPart : σ → Except ε (Option α)) : Record σ ε (Option α) :=
  field name readPart (some none) none

def map (f : α → β) (r : Record σ ε α) : Record σ ε β where
  names := r.names
  read parts :=
    match r.read parts with
    | .ok a => .ok (f a)
    | .error e => .error e

/-- The fields of both records, those of `f` declared first. -/
def apply (f : Record σ ε (α → β)) (r : Record σ ε α) : Record σ ε β where
  names := f.names ++ r.names
  read parts :=
    match f.read parts, r.read parts with
    | .ok g, .ok a => .ok (g a)
    | .ok _, .error e => .error e
    | .error e, .ok _ => .error e
    | .error e, .error e' => .error (e.first e')

instance : Functor (Record σ ε) where
  map := Record.map

instance : Seq (Record σ ε) where
  seq f r := f.apply (r ())

/-- Reads a record whose source ends with an error of its own, if any, after
the parts. -/
def run (r : Record σ ε α) (parts : Parts σ ε) (ending : Option ε) : Except ε α :=
  match r.read parts, ending with
  | .ok a, none => .ok a
  | .ok _, some e => .error e
  | .error f, none => .error f.cause
  | .error f, some e => .error (f.first ⟨parts.entries.length, e⟩).cause

end Record

end Courier
