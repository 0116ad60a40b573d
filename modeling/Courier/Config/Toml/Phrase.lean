import Courier.Config.Toml.Document
import Courier.Config.Toml.Number
import Courier.Config.Toml.Text

/-! # Keys and values in TOML

Readers return what they have read and the rest of the text. Arrays may go
over several lines, tables in braces may not.
-/

namespace Courier.Config.Toml

/-! ## Keys -/

def isKeyChar (c : Char) : Bool :=
  c.isAlphanum || c = '_' || c = '-'

/-- One name of a key. -/
def readName? : List Char → Option (String × List Char)
  | '"' :: rest => (readBasic? rest).map fun (cs, rest) => (String.ofList cs, rest)
  | '\'' :: rest => (readLiteral? rest).map fun (cs, rest) => (String.ofList cs, rest)
  | s =>
      match s.takeWhile isKeyChar with
      | [] => none
      | cs => some (String.ofList cs, s.dropWhile isKeyChar)

/-- Names joined by points, with blanks around each. Each takes a character,
so the length of the text is enough fuel. -/
def readNames? : Nat → List Char → Option (List String × List Char)
  | 0, _ => none
  | fuel + 1, s => do
      let (name, rest) ← readName? (skipBlank s)
      match skipBlank rest with
      | '.' :: rest =>
          let (names, rest) ← readNames? fuel rest
          return (name :: names, rest)
      | rest => return ([name], rest)

/-- Keys have fewer names than this, and values are nested less deep. -/
def maxDepth : Nat := 80

def readKey? (s : List Char) : Option (List String × List Char) :=
  (readNames? (s.length + 1) s).filter fun (names, _) => names.length < maxDepth

/-! ## Values -/

def isScalarChar (c : Char) : Bool :=
  c.isAlphanum || c ∈ ['+', '-', '.', '_', ':']

def dateOf (cs : List Char) : Node :=
  .date (String.ofList cs)

def scalar? (word : List Char) : Option Node :=
  if word = "true".toList then some (.leaf (.bool true))
  else if word = "false".toList then some (.leaf (.bool false))
  else
    match readMoment? .plain word, readInteger? word, readReal? word with
    | some cs, _, _ => some (dateOf cs)
    | none, some n, _ => some (.leaf (.whole n))
    | none, none, some x => some (.leaf (.real x))
    | none, none, none => none

/-- A word, or a date and a time with a blank between them. -/
def readScalar? (s : List Char) : Option (Node × List Char) :=
  let word := s.takeWhile isScalarChar
  let rest := s.dropWhile isScalarChar
  let long := word ++ ' ' :: (rest.drop 1).takeWhile isScalarChar
  match rest.head?, readDate? word, readMoment? .plain long with
  | some ' ', some (_, []), some cs => some (dateOf cs, (rest.drop 1).dropWhile isScalarChar)
  | _, _, _ => (scalar? word).map (·, rest)

/-- Items up to the closing bracket, with a comma after each but the last,
where it may be left out. -/
def readItems? (read : List Char → Option (Node × List Char)) :
    Nat → List Char → Option (List Node × List Char)
  | 0, _ => none
  | fuel + 1, s =>
      match skipSpace false s with
      | ']' :: rest => some ([], rest)
      | s => do
          let (node, rest) ← read s
          match skipSpace false rest with
          | ',' :: rest =>
              let (nodes, rest) ← readItems? read fuel rest
              return (node :: nodes, rest)
          | ']' :: rest => return ([node], rest)
          | _ => none

/-- A key, an equals sign and a value. -/
def readPair? (read : List Char → Option (Node × List Char)) (s : List Char) :
    Option ((List String × Node) × List Char) := do
  let (names, rest) ← readKey? s
  match rest with
  | '=' :: rest =>
      let (node, rest) ← read (skipBlank rest)
      return ((names, node), rest)
  | _ => none

/-- Pairs up to the closing brace, with a comma between each two. -/
def readPairs? (read : List Char → Option (Node × List Char)) :
    Nat → List Char → Option (List (List String × Node) × List Char)
  | 0, _ => none
  | fuel + 1, s => do
      let (pair, rest) ← readPair? read s
      match skipBlank rest with
      | ',' :: rest =>
          let (pairs, rest) ← readPairs? read fuel rest
          return (pair :: pairs, rest)
      | '\x7d' :: rest => return ([pair], rest)
      | _ => none

def readTable? (read : List Char → Option (Node × List Char)) (s : List Char) :
    Option (Node × List Char) :=
  match skipBlank s with
  | '\x7d' :: rest => some (.inline [], rest)
  | s => do
      let (pairs, rest) ← readPairs? read (s.length + 1) s
      return (.inline (← Entries.ofPairs? pairs), rest)

/-- Reads a value without parts. -/
def readFlat? (s : List Char) : Option (Node × List Char) :=
  match readString? s with
  | some (cs, rest) => some (.leaf (.string (String.ofList cs)), rest)
  | none => readScalar? s

/-- Reads a value with arrays and tables to some depth. -/
def readNested? : Nat → List Char → Option (Node × List Char)
  | depth + 1, '[' :: rest =>
      (readItems? (readNested? depth) (rest.length + 1) rest).map fun (nodes, rest) =>
        (.array nodes, rest)
  | depth + 1, '\x7b' :: rest => readTable? (readNested? depth) rest
  | _, s => readFlat? s

def readValue? (s : List Char) : Option (Node × List Char) :=
  readNested? (maxDepth - 1) s

/-! ## Statements -/

def readStatement? : List Char → Option (Statement × List Char)
  | '[' :: '[' :: rest => do
      match ← readKey? rest with
      | (names, ']' :: ']' :: rest) => return (.item names, rest)
      | _ => none
  | '[' :: rest => do
      match ← readKey? rest with
      | (names, ']' :: rest) => return (.table names, rest)
      | _ => none
  | s => do
      let ((names, node), rest) ← readPair? readValue? s
      return (.assignment names node, rest)

end Courier.Config.Toml
