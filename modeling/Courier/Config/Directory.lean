/-! # Directories

The files below a directory by their paths. A path may lead upward, but only
out of directories that exist, and not out of the whole.
-/

namespace Courier.Config

/-- The parts of a path that name something. -/
def pathParts (path : String) : List (List Char) :=
  (go path.toList).filter fun part => part ≠ [] ∧ part ≠ ['.']
where
  go : List Char → List (List Char)
    | [] => [[]]
    | '/' :: rest => [] :: go rest
    | c :: rest =>
        match go rest with
        | [] => [[c]]
        | part :: more => (c :: part) :: more

/-- The part of a path that leads out of a directory. -/
def upward : List Char := ['.', '.']

/-- A path without empty parts. -/
def plainPath (path : String) : String :=
  String.ofList (['/'].intercalate (pathParts path))

/-- The files below a directory, with their texts. -/
structure Directory where
  files : List (String × String)

namespace Directory

/-- Some file lies below. -/
def hasBelow (d : Directory) (parts : List (List Char)) : Bool :=
  d.files.any fun (path, _) =>
    let whole := pathParts path
    parts.isPrefixOf whole && parts.length < whole.length

/-- The parts of a path from the top, without steps upward. -/
def resolve? (d : Directory) : List (List Char) → List (List Char) → Option (List (List Char))
  | _, [] => none
  | outer, [name] => if name = upward then none else some (outer ++ [name])
  | outer, part :: rest =>
      if part = upward then
        if outer = [] then none else resolve? d outer.dropLast rest
      else if d.hasBelow (outer ++ [part]) then resolve? d (outer ++ [part]) rest
      else none

/-- The text of the file at a path. -/
def read? (d : Directory) (path : String) : Option String := do
  let parts ← d.resolve? [] (pathParts path)
  (d.files.find? fun (path, _) => pathParts path = parts).map Prod.snd

end Directory

end Courier.Config
