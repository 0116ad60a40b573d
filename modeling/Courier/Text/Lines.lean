/-! # Lines of a text -/

namespace Courier.Text

/-- The lines of a text, each with the line feed at its end. -/
def lines : List Char → List (List Char)
  | [] => []
  | c :: rest =>
      if c = '\n' then [c] :: lines rest
      else
        match lines rest with
        | [] => [[c]]
        | line :: more => (c :: line) :: more

/-- Drops the mark of the byte order with which a text may begin. -/
def dropMark : List Char → List Char
  | '\uFEFF' :: rest => rest
  | s => s

end Courier.Text
