import TestQuery.Sql.Dialect
import TestQuery.Status
import TestQuery.Timestamp
import TestQuery.Uuid

namespace TestQuery
namespace Sql

/-!
# Values

A parameter is what a statement compares with, in the terms of the domain.  A
value is what is handed to the database for it; it depends on the dialect only
where UUIDs are concerned.
-/

/-- A value bound to a statement.  Every type has a null of its own. -/
inductive Value where
  | string (content : Option String)
  | uuid (content : Option Uuid)
  | bytes (content : Option (List UInt8))
  | int (content : Option Int)
  | bigInt (content : Option Int)
  | bigUnsigned (content : Option Nat)
  | dateTime (content : Option Timestamp)
  | bool (content : Option Bool)
deriving DecidableEq

namespace Value

/-- How a value is shown to a reader. -/
def describe : Value → String
  | .string (some text) => "'" ++ text ++ "'"
  | .uuid (some id) => "'" ++ id.toString ++ "'"
  | .bytes (some content) =>
    match Uuid.ofBytes? content with
    | some id => "uuid_bytes(" ++ id.toString ++ ")"
    | none => s!"bytes({content.length})"
  | .int (some number) => toString number
  | .bigInt (some number) => toString number
  | .bigUnsigned (some number) => toString number
  | .dateTime (some moment) => "'" ++ moment.render .parameter ++ "'"
  | .bool (some true) => "Bool(Some(true))"
  | .bool (some false) => "Bool(Some(false))"
  | .string none => "String(None)"
  | .uuid none => "Uuid(None)"
  | .bytes none => "Bytes(None)"
  | .int none => "Int(None)"
  | .bigInt none => "BigInt(None)"
  | .bigUnsigned none => "BigUnsigned(None)"
  | .dateTime none => "ChronoDateTime(None)"
  | .bool none => "Bool(None)"

end Value

/-- What a statement compares with. -/
inductive Parameter where
  | text (content : String)
  | id (id : Uuid)
  | status (outcome : Status)
  | moment (moment : Timestamp)
  /-- The size or the start of a page. -/
  | count (count : Nat)
deriving DecidableEq

namespace Dialect

/-- The value handed over for a parameter. -/
def bind (dialect : Dialect) : Parameter → Value
  | .text content => .string (some content)
  | .id id =>
    match dialect with
    | .postgres => .uuid (some id)
    | .mysql | .sqlite => .bytes (some id.bytes)
  | .status outcome => .int (some outcome.rank)
  | .moment moment => .dateTime (some moment)
  | .count count => .bigUnsigned (some count)

end Dialect

end Sql
end TestQuery
