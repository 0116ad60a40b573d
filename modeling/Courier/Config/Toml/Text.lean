import Courier.Text.Hexadecimal

/-! # Text in TOML

Blanks, comments, ends of lines, and strings. Lines end with a line feed,
which a carriage return may precede. Comments and strings hold no control
characters but the tab; strings between tripled quotation marks may go over
several lines.

The body of a string is first cut out, and its escapes are read afterwards.
-/

namespace Courier.Config.Toml

def isBlank (c : Char) : Bool :=
  c = ' ' || c = '\t'

def skipBlank (s : List Char) : List Char :=
  s.dropWhile isBlank

/-- Characters that may stand in comments and strings. -/
def isPlain (c : Char) : Bool :=
  c = '\t' || (0x20 ≤ c.toNat && c.toNat ≠ 0x7F)

def skipComment : List Char → List Char
  | '#' :: rest => rest.dropWhile isPlain
  | s => s

/-- Nothing may be left on a line but a comment. -/
def readLineEnd? (s : List Char) : Option (List Char) :=
  match skipComment (skipBlank s) with
  | [] => some []
  | '\n' :: rest => some rest
  | '\r' :: '\n' :: rest => some rest
  | _ => none

/-- Skips blanks, ends of lines and comments. -/
def skipSpace (inComment : Bool) : List Char → List Char
  | [] => []
  | '\n' :: rest => skipSpace false rest
  | '\r' :: '\n' :: rest => skipSpace false rest
  | c :: rest =>
      if inComment then
        if isPlain c then skipSpace true rest else c :: rest
      else if isBlank c then skipSpace false rest
      else if c = '#' then skipSpace true rest
      else c :: rest

/-! ## Escapes -/

def escape? : Char → Option Char
  | 'b' => some '\x08'
  | 't' => some '\t'
  | 'n' => some '\n'
  | 'f' => some '\x0c'
  | 'r' => some '\r'
  | '"' => some '"'
  | '\\' => some '\\'
  | _ => none

/-- The character with a code point in hexadecimal. -/
def codePoint? (digits : List Char) : Option Char :=
  match Text.readHex? digits with
  | some n => if h : n.isValidChar then some (Char.ofNatAux n h) else none
  | none => none

/-- Reads the escapes in a body; all other characters must satisfy
`allowed`. -/
def unescape? (allowed : Char → Bool) : List Char → Option (List Char)
  | [] => some []
  | '\\' :: 'u' :: a :: b :: c :: d :: rest => do
      let x ← codePoint? [a, b, c, d]
      return x :: (← unescape? allowed rest)
  | '\\' :: 'U' :: a :: b :: c :: d :: e :: f :: g :: h :: rest => do
      let x ← codePoint? [a, b, c, d, e, f, g, h]
      return x :: (← unescape? allowed rest)
  | '\\' :: c :: rest => do
      let x ← escape? c
      return x :: (← unescape? allowed rest)
  | c :: rest =>
      if allowed c && c ≠ '\\' then (unescape? allowed rest).map (c :: ·) else none

/-! ## Strings on one line -/

/-- Cuts a text at the closing quotation mark, before which no backslash
stands. -/
def cutBasic? : List Char → Option (List Char × List Char)
  | [] => none
  | '"' :: rest => some ([], rest)
  | '\\' :: c :: rest => (cutBasic? rest).map fun (body, rest) => ('\\' :: c :: body, rest)
  | c :: rest => (cutBasic? rest).map fun (body, rest) => (c :: body, rest)

/-- Reads up to the closing quotation mark. -/
def readBasic? (s : List Char) : Option (List Char × List Char) := do
  let (body, rest) ← cutBasic? s
  return (← unescape? isPlain body, rest)

/-- Reads up to the closing apostrophe; nothing is escaped. -/
def readLiteral? : List Char → Option (List Char × List Char)
  | [] => none
  | '\'' :: rest => some ([], rest)
  | c :: rest =>
      if isPlain c then (readLiteral? rest).map fun (cs, rest) => (c :: cs, rest) else none

/-! ## Strings over several lines -/

/-- Cuts a text at the tripled mark `q`. Up to two marks more belong to the
body. -/
def cutLong? (q : Char) (escapes : Bool) : List Char → Option (List Char × List Char)
  | [] => none
  | c :: rest =>
      let s := c :: rest
      if (List.replicate 5 q).isPrefixOf s then some ([q, q], s.drop 5)
      else if (List.replicate 4 q).isPrefixOf s then some ([q], s.drop 4)
      else if (List.replicate 3 q).isPrefixOf s then some ([], s.drop 3)
      else
        match rest with
        | d :: rest' =>
            if escapes && c = '\\' then
              (cutLong? q escapes rest').map fun (body, rest) => (c :: d :: body, rest)
            else (cutLong? q escapes (d :: rest')).map fun (body, rest) => (c :: body, rest)
        | [] => none

/-- Every line ends with a line feed alone. -/
def plainEnds : List Char → List Char
  | [] => []
  | '\r' :: '\n' :: rest => '\n' :: plainEnds rest
  | c :: rest => c :: plainEnds rest

/-- A line end at the very beginning does not count. -/
def dropFirstEnd : List Char → List Char
  | '\n' :: rest => rest
  | s => s

def isLongChar (c : Char) : Bool :=
  isPlain c || c = '\n'

/-- A backslash at the end of a line takes with it everything up to the next
character that shows. `skipping` is the state after such a backslash. -/
def joinLines (skipping : Bool) : List Char → List Char
  | [] => []
  | c :: rest =>
      if skipping && (isBlank c || c = '\n') then joinLines true rest
      else if c = '\\' then
        match rest with
        | [] => [c]
        | d :: rest' =>
            if (skipBlank (d :: rest')).head? = some '\n' then joinLines true (d :: rest')
            else c :: d :: joinLines false rest'
      else c :: joinLines false rest

def readLongBasic? (s : List Char) : Option (List Char × List Char) := do
  let (body, rest) ← cutLong? '"' true s
  return (← unescape? isLongChar (joinLines false (dropFirstEnd (plainEnds body))), rest)

def readLongLiteral? (s : List Char) : Option (List Char × List Char) := do
  let (body, rest) ← cutLong? '\'' false s
  let body := dropFirstEnd (plainEnds body)
  if body.all isLongChar then some (body, rest) else none

/-- Reads a string of any of the four kinds. -/
def readString? (s : List Char) : Option (List Char × List Char) :=
  match s with
  | '"' :: '"' :: '"' :: rest => readLongBasic? rest
  | '"' :: rest => readBasic? rest
  | '\'' :: '\'' :: '\'' :: rest => readLongLiteral? rest
  | '\'' :: rest => readLiteral? rest
  | _ => none

end Courier.Config.Toml
