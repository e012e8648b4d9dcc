import TestQuery.Binary64
import TestQuery.Binary64.Shortest
import TestQuery.Text.Quoted

namespace TestQuery

/-!
# JSON values

Whole numbers and doubles are kept apart, as they are in the texts they come
from.  An object is a list of fields; objects that were read have each key once
and their keys in increasing order of code points.
-/

inductive Json where
  | null
  | bool (value : Bool)
  | int (value : Int)
  | float (value : Binary64)
  | string (text : String)
  | array (items : List Json)
  | object (fields : List (String × Json))

namespace Json

/-- Set a field among fields in increasing order of their keys.  A field with the
same key is replaced. -/
def setField {α : Type} (key : String) (value : α) : List (String × α) → List (String × α)
  | [] => [(key, value)]
  | (other, kept) :: rest =>
    if key < other then (key, value) :: (other, kept) :: rest
    else if key = other then (key, value) :: rest
    else (other, kept) :: setField key value rest

/-- The fields in increasing order of their keys.  Of fields with the same key the
last one counts. -/
def sortFields {α : Type} (fields : List (String × α)) : List (String × α) :=
  fields.foldl (fun sorted field => setField field.1 field.2 sorted) []

def field? (fields : List (String × Json)) (key : String) : Option Json :=
  fields.lookup key

def minInt64 : Int := -(Int.pow 2 63)

def maxInt64 : Int := Int.pow 2 63 - 1

/-- The whole number of a value, if it fits a signed word of 64 bits. -/
def int64? : Json → Option Int
  | .int value => if minInt64 ≤ value ∧ value ≤ maxInt64 then some value else none
  | _ => none

/-- How a message names a value. -/
def describe : Json → String
  | .null => "null"
  | .bool true => "boolean `true`"
  | .bool false => "boolean `false`"
  | .int value => s!"integer `{value}`"
  | .float value => s!"floating point `{value}`"
  | .string text => "string " ++ Text.quoted text
  | .array _ => "sequence"
  | .object _ => "map"

end Json

end TestQuery
