import Courier.Text.Hexadecimal

/-! # Notification identifiers

Identifiers have 128 bits. They are written as lower-case hexadecimal digits
in groups of 8, 4, 4, 4 and 12 with hyphens between the groups. Reading also
accepts the digits without hyphens, and the grouped form in braces or after
`urn:uuid:`, in either case.
-/

namespace Courier

structure NotificationId where
  value : BitVec 128
  deriving DecidableEq, Inhabited

namespace NotificationId

def ofNat (n : Nat) : NotificationId :=
  ⟨BitVec.ofNat 128 n⟩

/-- The identifier made of 122 random bits, with the marks of version and
variant between them. -/
def random (bits : BitVec 122) : NotificationId :=
  ⟨bits.extractLsb' 74 48 ++ 4#4 ++ bits.extractLsb' 62 12 ++ 2#2 ++ bits.extractLsb' 0 62⟩

/-- How the identifier was made; random ones have version 4. -/
def version (id : NotificationId) : Nat :=
  (id.value.extractLsb' 76 4).toNat

def digits (id : NotificationId) : List Char :=
  Text.hex 32 id.value.toNat

/-- Hyphens after 8, 12, 16 and 20 of the digits. -/
def grouped (ds : List Char) : List Char :=
  ds.take 8 ++ '-' :: (ds.drop 8).take 4 ++ '-' :: (ds.drop 12).take 4 ++
    '-' :: (ds.drop 16).take 4 ++ '-' :: ds.drop 20

def text (id : NotificationId) : String :=
  String.ofList (grouped id.digits)

/-- Takes the hyphens out of a grouped text. -/
def ungroup? (s : List Char) : Option (List Char) :=
  let ds := s.filter (· ≠ '-')
  if ds.length = 32 ∧ grouped ds = s then some ds else none

def ofDigits? (ds : List Char) : Option NotificationId :=
  (Text.readHex? ds).map ofNat

def scheme : List Char := "urn:uuid:".toList

def ofGrouped? (s : List Char) : Option NotificationId :=
  (ungroup? s).bind ofDigits?

def read? (s : String) : Option NotificationId :=
  let cs := s.toList
  if cs.length = 32 then ofDigits? cs
  else if cs.length = 36 then ofGrouped? cs
  else if cs.length = 38 ∧ cs.head? = some '\x7b' ∧ cs.getLast? = some '\x7d' then
    ofGrouped? (cs.drop 1).dropLast
  else if cs.length = 45 ∧ (cs.take 9).map Char.toLower = scheme then ofGrouped? (cs.drop 9)
  else none

end NotificationId

end Courier
