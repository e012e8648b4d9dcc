import TestQuery.Text

namespace TestQuery

/-!
# UUIDs

A UUID is sixteen bytes.  It is written as 32 lower-case hexadecimal digits in
groups of 8, 4, 4, 4 and 12, with hyphens between the groups.
-/

/-- A universally unique identifier. -/
structure Uuid where
  bytes : List UInt8
  size : bytes.length = 16
deriving DecidableEq

namespace Uuid

/-- The UUID whose bytes are all zero. -/
def nil : Uuid where
  bytes := List.replicate 16 0
  size := rfl

/-- The UUID with the given bytes, if there are sixteen of them. -/
def ofBytes? (bytes : List UInt8) : Option Uuid :=
  if size : bytes.length = 16 then some ⟨bytes, size⟩ else none

def digits (id : Uuid) : List Char :=
  id.bytes.flatMap Text.hexByte

/-- Put a hyphen after each group of the given sizes. -/
def hyphenate : (groups : List Nat) → List Char → List Char
  | [], digits => digits
  | size :: groups, digits => digits.take size ++ '-' :: hyphenate groups (digits.drop size)

/-- The hyphenated form in lower case. -/
protected def toString (id : Uuid) : String :=
  String.ofList (hyphenate [8, 4, 4, 4] id.digits)

instance : ToString Uuid where
  toString := Uuid.toString

instance : Inhabited Uuid where
  default := nil

end Uuid

end TestQuery
