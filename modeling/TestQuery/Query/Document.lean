import TestQuery.Json
import TestQuery.Query

namespace TestQuery

/-!
# Queries as documents

The JSON form in which a query is shown.
-/

namespace Equality

def toJson : Equality → Json
  | .equal => .string "Eq"
  | .notEqual => .string "NotEq"

end Equality

namespace Connective

def toJson : Connective → Json
  | .and => .string "And"
  | .or => .string "Or"

end Connective

namespace Predicate

/-- The name under which a textual field is compared. -/
def textCase : TextField → String
  | .name => "ByName"
  | .classname => "ByClassname"
  | .testsuite => "ByTestsuite"
  | .file => "ByFile"

/-- An object with one field, named for the form of what it holds. -/
def form (name : String) (fields : List (String × Json)) : Json :=
  .object [(name, .object fields)]

/-- A predicate is an object with one field, named for its form. -/
def toJson : Predicate → Json
  | .session comparison id =>
    form "BySessionId" [("id", .string id.toString), ("op", comparison.toJson)]
  | .testcase comparison id =>
    form "ById" [("id", .string id.toString), ("op", comparison.toJson)]
  | .text field comparison value =>
    form (textCase field) [("value", .string value), ("op", comparison.toJson)]
  | .status comparison outcome =>
    form "ByStatus" [("status", .string outcome.name), ("op", comparison.toJson)]
  | .tagged comparison tag =>
    form "HasTag" [("tag", .string tag), ("op", comparison.toJson)]
  | .taggedWith comparison tag value =>
    form "TagEquals" [("tag", .string tag), ("value", .string value), ("op", comparison.toJson)]

end Predicate

namespace Link

def toJson (link : Link) : Json :=
  .object [
    ("op", link.connective.toJson),
    ("query", match link.predicate with
      | none => .string "Empty"
      | some predicate => predicate.toJson)]

end Link

namespace GroupKey

def toJson : GroupKey → Json
  | .session => .string "BySession"
  | .tag name => .object [("ByTag", .object [("tag", .string name)])]

end GroupKey

namespace Query

/-- An absent part is null. -/
def optional {α : Type} (toJson : α → Json) : Option α → Json
  | none => .null
  | some value => toJson value

def momentJson (moment : Timestamp) : Json :=
  .string (moment.render .document)

def toJson (query : Query) : Json :=
  .object [
    ("select", .object [("parts", .array (query.chain.map Link.toJson))]),
    ("group", optional (fun keys => .object [("tokens", .array (keys.map GroupKey.toJson))])
      query.groupBy),
    ("group_selector", optional (fun values => .array (values.map .string)) query.selector),
    ("offset", .int query.offset),
    ("limit", .int query.limit),
    ("start_date", optional momentJson query.startDate),
    ("end_date", optional momentJson query.endDate)]

end Query

end TestQuery
