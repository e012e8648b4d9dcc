import TestQuery.Json.Decoder

namespace TestQuery
namespace Record

open Json

/-!
# Testcases

A testcase as a list shows it, and with everything that is known about it.
-/

/-- An absent text is null. -/
def optionalText : Option String → Json
  | none => .null
  | some content => .string content

/-- Labels as an object. -/
def labelsJson (labels : List (String × String)) : Json :=
  .object (labels.map fun (key, value) => (key, .string value))

/-- A testcase of a list. -/
structure Testcase where
  id : Uuid
  sessionId : Uuid
  name : String
  status : Status
  classname : Option String
  testsuite : Option String
  file : Option String
  createdAt : String

namespace Testcase

def layout : Layout where
  name := "Testcase"
  columns := [
    .needed "id" Decoder.uuid,
    .needed "session_id" Decoder.uuid,
    .needed "name" Decoder.text,
    .needed "status" Decoder.status,
    .spare "classname" (Decoder.optional Decoder.text),
    .spare "testsuite" (Decoder.optional Decoder.text),
    .spare "file" (Decoder.optional Decoder.text),
    .needed "created_at" Decoder.text]

def decode : Decoder Testcase := fun value => do
  let cells ← layout.cells value
  return {
    id := ← cells.get "id" Decoder.uuid
    sessionId := ← cells.get "session_id" Decoder.uuid
    name := ← cells.get "name" Decoder.text
    status := ← cells.get "status" Decoder.status
    classname := ← cells.getD "classname" (Decoder.optional Decoder.text) none
    testsuite := ← cells.getD "testsuite" (Decoder.optional Decoder.text) none
    file := ← cells.getD "file" (Decoder.optional Decoder.text) none
    createdAt := ← cells.get "created_at" Decoder.text }

def toJson (testcase : Testcase) : Json :=
  .object [
    ("id", .string testcase.id.toString),
    ("session_id", .string testcase.sessionId.toString),
    ("name", .string testcase.name),
    ("status", .string testcase.status.name),
    ("classname", optionalText testcase.classname),
    ("testsuite", optionalText testcase.testsuite),
    ("file", optionalText testcase.file),
    ("created_at", .string testcase.createdAt)]

end Testcase

/-- A testcase with its output, its baggage and the labels of its session. -/
structure TestcaseDetail where
  id : Uuid
  sessionId : Uuid
  name : String
  status : Status
  classname : Option String
  testsuite : Option String
  file : Option String
  output : Option String
  baggage : Option Json
  /-- In increasing order of their keys. -/
  labels : List (String × String)
  createdAt : String

namespace TestcaseDetail

def layout : Layout where
  name := "TestcaseDetail"
  columns := [
    .needed "id" Decoder.uuid,
    .needed "session_id" Decoder.uuid,
    .needed "name" Decoder.text,
    .needed "status" Decoder.status,
    .spare "classname" (Decoder.optional Decoder.text),
    .spare "testsuite" (Decoder.optional Decoder.text),
    .spare "file" (Decoder.optional Decoder.text),
    .spare "output" (Decoder.optional Decoder.text),
    .spare "baggage" Decoder.baggage,
    .spare "labels" Decoder.textMap,
    .needed "created_at" Decoder.text]

def decode : Decoder TestcaseDetail := fun value => do
  let cells ← layout.cells value
  return {
    id := ← cells.get "id" Decoder.uuid
    sessionId := ← cells.get "session_id" Decoder.uuid
    name := ← cells.get "name" Decoder.text
    status := ← cells.get "status" Decoder.status
    classname := ← cells.getD "classname" (Decoder.optional Decoder.text) none
    testsuite := ← cells.getD "testsuite" (Decoder.optional Decoder.text) none
    file := ← cells.getD "file" (Decoder.optional Decoder.text) none
    output := ← cells.getD "output" (Decoder.optional Decoder.text) none
    baggage := ← cells.getD "baggage" Decoder.baggage none
    labels := ← cells.getD "labels" Decoder.textMap []
    createdAt := ← cells.get "created_at" Decoder.text }

def toJson (detail : TestcaseDetail) : Json :=
  .object [
    ("id", .string detail.id.toString),
    ("session_id", .string detail.sessionId.toString),
    ("name", .string detail.name),
    ("status", .string detail.status.name),
    ("classname", optionalText detail.classname),
    ("testsuite", optionalText detail.testsuite),
    ("file", optionalText detail.file),
    ("output", optionalText detail.output),
    ("baggage", detail.baggage.getD .null),
    ("labels", labelsJson detail.labels),
    ("created_at", .string detail.createdAt)]

end TestcaseDetail

end Record
end TestQuery
