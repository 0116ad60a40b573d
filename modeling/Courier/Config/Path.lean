import Courier.Config.Value
import Courier.Text.Numeral

/-! # Paths

A name at the top of a layer may be a path: names joined by points, and
positions of array items in brackets. A name that is no path stands for
itself.
-/

namespace Courier.Config

inductive Step where
  | name (s : String)
  /-- The position of an item; negative ones count from the end. -/
  | item (i : Int)
  deriving DecidableEq, Repr

abbrev Path := List Step

namespace Path

def isNameChar (c : Char) : Bool :=
  c.isAlphanum || c = ' ' || c = '_' || c = '-'

def isBlank (c : Char) : Bool :=
  c = ' ' || c = '\t'

/-- A position and the text after the closing bracket. -/
def readItem? (s : List Char) : Option (Int × List Char) := do
  let s := s.dropWhile isBlank
  let (negative, s) := match s with
    | '-' :: rest => (true, rest)
    | _ => (false, s)
  let n ← Text.readNat? (Text.leadingDigits s)
  match (Text.afterDigits s).dropWhile isBlank with
  | ']' :: rest => if n < Text.signedBound then some (if negative then -(n : Int) else n, rest) else none
  | _ => none

/-- Reads the steps after the first. Each takes at least one character, so the
length of the text is enough fuel. -/
def readSteps? : Nat → List Char → Option Path
  | _, [] => some []
  | 0, _ => none
  | fuel + 1, '.' :: rest =>
      match rest.takeWhile isNameChar with
      | [] => none
      | name =>
          (readSteps? fuel (rest.dropWhile isNameChar)).map (.name (String.ofList name) :: ·)
  | fuel + 1, '[' :: rest => do
      let (i, rest) ← readItem? rest
      (readSteps? fuel rest).map (.item i :: ·)
  | _, _ => none

def read? (s : String) : Option Path :=
  let cs := s.toList
  match cs.takeWhile isNameChar with
  | [] => none
  | name =>
      (readSteps? cs.length (cs.dropWhile isNameChar)).map (.name (String.ofList name) :: ·)

/-- The path a name stands for. -/
def ofName (s : String) : Path :=
  (read? s).getD [.name s]

end Path

/-- The place of an item in an array of `size` items. -/
def place? (i : Int) (size : Nat) : Option Nat :=
  if 0 ≤ i then some i.toNat
  else if i.natAbs ≤ size then some (size - i.natAbs)
  else none

namespace Value

/-- Replaces the item at `i`, after items without value if the array is
shorter. -/
def setItem (vs : List Value) (i : Nat) (v : Value) : List Value :=
  (vs ++ List.replicate (i + 1 - vs.length) Value.null).set i v

/-- Sets the value at a path. Whatever stands in the way of the path gives way
to tables and arrays. -/
def setAt (v : Value) : Path → Option Value → Value
  | [], below => v.laidOver below
  | .name s :: rest, below =>
      let ms := (below.getD (.table [])).members
      .table (ms.set s (setAt v rest (ms.get? s)))
  | .item i :: rest, below =>
      let vs := (below.getD (.array [])).items
      -- At the end of a path an item is replaced, not laid over.
      match place? i vs.length with
      | none => .array vs
      | some i => .array (setItem vs i (if rest = [] then v else setAt v rest vs[i]?))

end Value

/-- What one source sets: names with values. -/
abbrev Layer := List (String × Value)

/-- Lays a layer over a configuration. -/
def overlay (config : Value) (layer : Layer) : Value :=
  layer.foldl
    (fun config (name, v) => v.setAt (Path.ofName (Text.lower name)) (some config)) config

end Courier.Config
