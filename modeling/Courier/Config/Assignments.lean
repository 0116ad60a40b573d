import Courier.Config.Environment
import Courier.Text.Alphanumeric
import Courier.Text.Blank
import Courier.Text.Lines

/-! # Assignments

Variables may come from a text of assignments, which never replaces a variable
that is set already. An assignment may go over several lines if a quotation
mark is open at the end of a line, or if a line ends with a backslash or a
blank. Values may be quoted and may refer to variables that are set. The first
assignment that cannot be read ends the text.
-/

namespace Courier.Config

/-! ## Lines that belong together -/

/-- What surrounds a place in an assignment. -/
inductive Quoting where
  | none
  /-- Just after a blank, where a comment may begin. -/
  | blank
  /-- Just after a backslash. -/
  | escape
  | weak
  | weakEscape
  | strong
  | strongEscape
  deriving DecidableEq, Repr

namespace Quoting

def isLineEnd (c : Char) : Bool :=
  c = '\n' || c = '\r'

/-- What surrounds the place after a character. Of several blanks only every
other one lets a comment begin. -/
def after : Quoting → Char → Quoting
  | .escape, _ => .none
  | .weakEscape, _ => .weak
  | .strongEscape, _ => .strong
  | .weak, c => if c = '\\' then .weakEscape else if c = '"' then .none else .weak
  | .strong, c => if c = '\\' then .strongEscape else if c = '\'' then .none else .strong
  | q, c =>
      if c = '\\' then .escape
      else if c = '"' then .weak
      else if c = '\'' then .strong
      else if q = .none && Text.isBlank c && !isLineEnd c then .blank
      else .none

/-- The part of a line in front of a comment, and what surrounds its end,
unless there is a comment. -/
def scan : Quoting → List Char → List Char × Option Quoting
  | q, [] => ([], some q)
  | q, c :: rest =>
      if q = .blank ∧ c = '#' then ([], Option.none)
      else
        let (kept, ending) := scan (q.after c) rest
        (c :: kept, ending)

end Quoting

/-- Whether there is nothing but a comment. -/
def isComment (s : List Char) : Bool :=
  (Text.trimStart s).head? = some '#'

/-- Joins the lines that belong together. `read` is the beginning of the
current assignment. The last one is missing if the text ends within it. -/
def joinLines (read : List Char) (q : Quoting) : List (List Char) → List (Option (List Char))
  | [] => if q = .none then [] else [none]
  | line :: rest =>
      if isComment (read ++ line) then some [] :: joinLines [] .none rest
      else
        let (kept, ending) := q.scan line
        match ending with
        | none => some (read ++ kept) :: joinLines [] .none rest
        | some .none => some (read ++ kept) :: joinLines [] .none rest
        | some q => joinLines (read ++ kept) q rest

/-! ## Values -/

/-- What a character of a value belongs to. `weak` tells that it stands between
quotation marks, where variables may still be referred to. -/
inductive Passage where
  | text (weak : Bool)
  | strong
  /-- Just after a backslash. -/
  | escape (weak : Bool)
  /-- The name of a variable, in braces or not, of which `name` has been read. -/
  | reference (weak braced : Bool) (name : List Char)
  /-- After the value there may only be a comment. -/
  | ending

/-- Characters that stand for themselves, or for a line end, after a
backslash. -/
def escape? (c : Char) : Option Char :=
  if c = 'n' then some '\n'
  else if c ∈ ['\\', '\'', '"', '$', ' '] then some c
  else none

/-- Reads a value. A reference stands for what `look` gives for the name. The
name ends with the first character that is neither letter nor digit; without
braces this one stands for itself, whatever it is. -/
def readValue? (look : List Char → List Char) : Passage → List Char → Option (List Char)
  | .text weak, [] => if weak then none else some []
  | .strong, [] => none
  | .escape weak, [] => if weak then none else some []
  | .reference weak braced name, [] => if weak || braced then none else some (look name)
  | .ending, [] => some []
  | .ending, c :: rest =>
      if c = ' ' || c = '\t' then readValue? look .ending rest
      else if c = '#' then some []
      else none
  | .escape weak, c :: rest => do
      let x ← escape? c
      (readValue? look (.text weak) rest).map (x :: ·)
  | .strong, c :: rest =>
      if c = '\'' then readValue? look (.text false) rest
      else (readValue? look .strong rest).map (c :: ·)
  | .reference weak braced name, c :: rest =>
      if Text.isAlphanumeric c then readValue? look (.reference weak braced (name ++ [c])) rest
      else if braced then
        if c = '\x7d' then (readValue? look (.text weak) rest).map (look name ++ ·)
        else readValue? look (.reference weak true (name ++ [c])) rest
      else if c = '\x7b' && name.isEmpty then readValue? look (.reference weak true []) rest
      else if c = '$' then (readValue? look (.reference weak false []) rest).map (look name ++ ·)
      else (readValue? look (.text weak) rest).map fun v => look name ++ c :: v
  | .text weak, c :: rest =>
      if c = '$' then readValue? look (.reference weak false []) rest
      else if c = '"' then readValue? look (.text (!weak)) rest
      else if c = '\\' then readValue? look (.escape weak) rest
      else if weak then (readValue? look (.text true) rest).map (c :: ·)
      else if c = '\'' then readValue? look .strong rest
      else if c = ' ' || c = '\t' then readValue? look .ending rest
      else (readValue? look (.text false) rest).map (c :: ·)

/-! ## Assignments -/

def isNameStart (c : Char) : Bool :=
  c.isAlpha || c = '_'

def isNameChar (c : Char) : Bool :=
  c.isAlphanum || c = '_' || c = '.'

def readName? (s : List Char) : Option (String × List Char) :=
  match s with
  | [] => none
  | c :: _ =>
      if isNameStart c then
        some (String.ofList (s.takeWhile isNameChar), Text.trimStart (s.dropWhile isNameChar))
      else none

/-- A name and the text after the equals sign; `export` may come first. -/
def readTarget? (s : List Char) : Option (String × List Char) := do
  let (name, rest) ← readName? s
  match rest with
  | '=' :: rest => some (name, rest)
  | rest =>
      if name = "export" then
        match ← readName? rest with
        | (name, '=' :: rest) => some (name, rest)
        | _ => none
      else none

namespace Environment

/-- What a reference stands for; a variable that is not set is empty. -/
def expansion (env : Environment) (name : List Char) : List Char :=
  ((env.get? (String.ofList name)).getD "").toList

/-- The name and value of an assignment; nothing, if the line is empty or a
comment. -/
def readAssignment? (env : Environment) (line : List Char) : Option (Option (String × String)) :=
  match Text.trim line with
  | [] => some none
  | '#' :: _ => some none
  | s => do
      let (name, rest) ← readTarget? s
      match Text.trimStart rest with
      | '#' :: _ => some (some (name, ""))
      | rest =>
          let v ← readValue? env.expansion (.text false) rest
          return some (name, String.ofList v)

/-- Adds what the assignments set, up to the first that cannot be read. -/
def addAssignments? (env : Environment) : List (Option (List Char)) → Option Environment
  | [] => some env
  | none :: _ => some env
  | some line :: rest =>
      match env.readAssignment? line with
      | none => some env
      | some none => addAssignments? env rest
      | some (some (name, value)) => do
          let env ← env.add? name value
          addAssignments? env rest

/-- The environment with what a text of assignments sets. There is none if a
variable would get a value that it cannot have. -/
def addText? (env : Environment) (s : String) : Option Environment :=
  env.addAssignments? (joinLines [] .none (Text.lines (Text.dropMark s.toList)))

end Environment

end Courier.Config
