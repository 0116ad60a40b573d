import Courier.Config.Path
import Courier.Config.Toml.Phrase
import Courier.Text.Lines

/-! # Configuration in TOML

The whole text is read as one document, whose root is the layer. A mark of the
byte order may come first.
-/

namespace Courier.Config.Toml

/-- Adds what the text says to a document. Each statement takes a character,
so the length of the text is enough fuel. -/
def addText? : Nat → Document → List Char → Option Document
  | 0, _, _ => none
  | fuel + 1, d, s =>
      match skipBlank s with
      | [] => some d
      | c :: rest =>
          if c ∈ ['#', '\n', '\r'] then (readLineEnd? (c :: rest)).bind (addText? fuel d)
          else do
            let (statement, rest) ← readStatement? (c :: rest)
            let rest ← readLineEnd? rest
            addText? fuel (← d.add? statement) rest

/-- The layer that a text sets. -/
def read? (s : String) : Option Layer := do
  let cs := Text.dropMark s.toList
  let d ← addText? (cs.length + 1) Document.empty cs
  d.values?

end Courier.Config.Toml
