import TestQuery.Json.Decoder
import TestQuery.Json.Writer
import TestQuery.Plan

namespace TestQuery
namespace Record

open Json

/-!
# Groups

A group of testcases: the values of its keys, its worst status and its size.
-/

structure Group where
  /-- One value for each key; a tag may have none. -/
  values : List (Option String)
  status : Status
  testcaseCount : Int
deriving DecidableEq

namespace Group

/-- The value of a group key.  What is neither null nor a text is shown as JSON. -/
def valueOf : Option Json → Option String
  | none | some .null => none
  | some (.string content) => some content
  | some other => some other.compact

/-- Decode a row that has a value for each of the columns. -/
def decode (columns : List Plan.GroupColumn) (row : Cells) : Except Fault Group := do
  let values := columns.map fun column => valueOf (field? row column.resultName)
  let rank ←
    match (field? row "aggregated_status").bind int64? with
    | some rank => .ok rank
    | none => .error (.missingField "aggregated_status")
  let status ← Decoder.statusOfRank rank
  let testcaseCount ← row.int "testcase_count"
  return ⟨values, status, testcaseCount⟩

/-- The values for display, those that are absent left empty. -/
def label (group : Group) : String :=
  joined ", " (group.values.map fun value => value.getD "")

def toJson (group : Group) : Json :=
  .object [
    ("values", .array (group.values.map fun
      | none => .null
      | some content => .string content)),
    ("status", .string group.status.name),
    ("testcase_count", .int group.testcaseCount)]

end Group

end Record
end TestQuery
