import Courier.Json.Fragment
import Courier.Json.Number
import Courier.Json.Text

/-! # Reading JSON

`Fragment.read` reads one value from the front of a text. It never fails: a
text that is not JSON gives a fragment with a cut in it. Every call consumes a
character or reads the element after one that was consumed, so twice the
length of the text is fuel enough.
-/

namespace Courier.Json

def isSpace (c : Char) : Bool :=
  c = ' ' || c = '\t' || c = '\n' || c = '\r'

def skipSpace : List Char → List Char
  | [] => []
  | c :: rest => if isSpace c then skipSpace rest else c :: rest

/-- Reads a name between quotes. -/
def readName? : List Char → Option (Option String × List Char)
  | '"' :: rest => readString? rest
  | _ => none

def readColon? (s : List Char) : Option (List Char) :=
  match skipSpace s with
  | ':' :: rest => some rest
  | _ => none

def readScalar (s : List Char) : Fragment × List Char :=
  match s with
  | 'n' :: 'u' :: 'l' :: 'l' :: rest => (.null, rest)
  | 't' :: 'r' :: 'u' :: 'e' :: rest => (.bool true, rest)
  | 'f' :: 'a' :: 'l' :: 's' :: 'e' :: rest => (.bool false, rest)
  | '"' :: rest =>
      match readString? rest with
      | some (content, rest) => (.string content, rest)
      | none => (.cut, [])
  | _ =>
      match Literal.read? s with
      | some (l, rest) => (.number l.value?, rest)
      | none => (.cut, [])

mutual

def readValue : Nat → List Char → Fragment × List Char
  | 0, _ => (.cut, [])
  | fuel + 1, s =>
      match skipSpace s with
      | '[' :: rest =>
          match skipSpace rest with
          | ']' :: rest => (.array .done, rest)
          | _ =>
              let (items, rest) := readItems fuel rest
              (.array items, rest)
      | '\x7b' :: rest =>
          match skipSpace rest with
          | '\x7d' :: rest => (.object false .done, rest)
          | _ =>
              let (members, rest) := readMembers fuel rest
              (.object false members, rest)
      | s => readScalar s

/-- Reads an item and what follows it, up to the closing bracket. -/
def readItems : Nat → List Char → Items × List Char
  | 0, _ => (.cut, [])
  | fuel + 1, s =>
      let (head, rest) := readValue fuel s
      match skipSpace rest with
      | ',' :: rest =>
          let (items, rest) := readItems fuel rest
          (.item head items, rest)
      | ']' :: rest => (.item head .done, rest)
      | _ => (.item head .cut, [])

/-- Reads a member and what follows it, up to the closing brace. -/
def readMembers : Nat → List Char → Members × List Char
  | 0, _ => (.cut, [])
  | fuel + 1, s =>
      match readName? (skipSpace s) with
      | none => (.cut, [])
      | some (name, rest) =>
          match readColon? rest with
          | none => (.member name .cut .cut, [])
          | some rest =>
              let (value, rest) := readValue fuel rest
              match skipSpace rest with
              | ',' :: rest =>
                  let (members, rest) := readMembers fuel rest
                  (.member name value members, rest)
              | '\x7d' :: rest => (.member name value .done, rest)
              | _ => (.member name value .cut, [])

end

/-- The value in front of a text and the text after it. -/
def Fragment.read (s : List Char) : Fragment × List Char :=
  readValue (2 * s.length + 1) s

/-- The value that a text consists of. -/
def Value.read? (s : List Char) : Option Value :=
  let (fragment, rest) := Fragment.read s
  if (skipSpace rest).isEmpty then fragment.toValue? maxDepth else none

end Courier.Json
