import Courier.Text.Hexadecimal

/-! # JSON strings

Writing escapes quotes, backslashes and control characters, nothing else.
Reading accepts every escape of the format. The body of a string is first
split into characters and 16-bit units given by number; units are then joined
to characters, which fails for half of a surrogate pair.
-/

namespace Courier.Json

/-- A character as it stands between the quotes. -/
def escapeChar (c : Char) : List Char :=
  if c = '"' then ['\\', '"']
  else if c = '\\' then ['\\', '\\']
  else if c = '\x08' then ['\\', 'b']
  else if c = '\t' then ['\\', 't']
  else if c = '\n' then ['\\', 'n']
  else if c = '\x0c' then ['\\', 'f']
  else if c = '\r' then ['\\', 'r']
  else if c.toNat < 0x20 then ['\\', 'u'] ++ Text.hex 4 c.toNat
  else [c]

def writeString (s : String) : List Char :=
  '"' :: s.toList.flatMap escapeChar ++ ['"']

inductive Piece where
  | char (c : Char)
  | unit (n : Nat)

/-- The character of a short escape. -/
def shortEscape? (c : Char) : Option Char :=
  if c = '"' then some '"'
  else if c = '\\' then some '\\'
  else if c = '/' then some '/'
  else if c = 'b' then some '\x08'
  else if c = 'f' then some '\x0c'
  else if c = 'n' then some '\n'
  else if c = 'r' then some '\r'
  else if c = 't' then some '\t'
  else none

/-- Splits what follows the opening quote, up to and including the closing
one, and returns what comes after it. -/
def readPieces? : List Char → Option (List Piece × List Char)
  | [] => none
  | '"' :: rest => some ([], rest)
  | '\\' :: 'u' :: a :: b :: c :: d :: rest => do
      let n ← Text.readHex? [a, b, c, d]
      let (pieces, rest) ← readPieces? rest
      return (.unit n :: pieces, rest)
  | '\\' :: e :: rest => do
      let c ← shortEscape? e
      let (pieces, rest) ← readPieces? rest
      return (.char c :: pieces, rest)
  | c :: rest =>
      if c.toNat < 0x20 ∨ c = '\\' then none
      else do
        let (pieces, rest) ← readPieces? rest
        return (.char c :: pieces, rest)

def isHighUnit (n : Nat) : Bool :=
  0xD800 ≤ n && n < 0xDC00

def isLowUnit (n : Nat) : Bool :=
  0xDC00 ≤ n && n < 0xE000

def joinUnits (high low : Nat) : Char :=
  Char.ofNat (0x10000 + (high - 0xD800) * 0x400 + (low - 0xDC00))

/-- Joins units to characters; `none` if a surrogate has no partner. -/
def assemble? : List Piece → Option (List Char)
  | [] => some []
  | .char c :: rest => (assemble? rest).map (c :: ·)
  | .unit n :: rest =>
      if isHighUnit n then
        match rest with
        | .unit m :: rest =>
            if isLowUnit m then (assemble? rest).map (joinUnits n m :: ·) else none
        | _ => none
      else if isLowUnit n then none
      else (assemble? rest).map (Char.ofNat n :: ·)

/-- Reads a string after its opening quote. The content is `none` if an
escape names half a character. -/
def readString? (s : List Char) : Option (Option String × List Char) :=
  (readPieces? s).map fun (pieces, rest) => ((assemble? pieces).map String.ofList, rest)

end Courier.Json
