import TestQuery.Record.Testcase

namespace TestQuery
namespace Record

open Json

/-!
# Sessions

A session as a list shows it, and with everything that is known about it.  Its
status is the worst of its testcases; a session without testcases has none.
-/

/-- An absent status is null. -/
def optionalStatus : Option Status → Json
  | none => .null
  | some status => .string status.name

/-- A session of a list. -/
structure Session where
  id : Uuid
  description : Option String
  status : Option Status
  createdAt : String

namespace Session

def layout : Layout where
  name := "Session"
  columns := [
    .needed "id" Decoder.uuid,
    .spare "description" (Decoder.optional Decoder.text),
    .spare "aggregated_status" (Decoder.optional Decoder.status),
    .needed "created_at" Decoder.text]

def decode : Decoder Session := fun value => do
  let cells ← layout.cells value
  return {
    id := ← cells.get "id" Decoder.uuid
    description := ← cells.getD "description" (Decoder.optional Decoder.text) none
    status := ← cells.getD "aggregated_status" (Decoder.optional Decoder.status) none
    createdAt := ← cells.get "created_at" Decoder.text }

def toJson (session : Session) : Json :=
  .object [
    ("id", .string session.id.toString),
    ("description", optionalText session.description),
    ("status", optionalStatus session.status),
    ("created_at", .string session.createdAt)]

end Session

/-- A session with its baggage and its labels. -/
structure SessionDetail where
  id : Uuid
  description : Option String
  status : Option Status
  baggage : Option Json
  /-- In increasing order of their keys. -/
  labels : List (String × String)
  createdAt : String

namespace SessionDetail

def layout : Layout where
  name := "SessionDetail"
  columns := [
    .needed "id" Decoder.uuid,
    .spare "description" (Decoder.optional Decoder.text),
    .spare "aggregated_status" (Decoder.optional Decoder.status),
    .spare "baggage" Decoder.baggage,
    .spare "labels" Decoder.textMap,
    .needed "created_at" Decoder.text]

def decode : Decoder SessionDetail := fun value => do
  let cells ← layout.cells value
  return {
    id := ← cells.get "id" Decoder.uuid
    description := ← cells.getD "description" (Decoder.optional Decoder.text) none
    status := ← cells.getD "aggregated_status" (Decoder.optional Decoder.status) none
    baggage := ← cells.getD "baggage" Decoder.baggage none
    labels := ← cells.getD "labels" Decoder.textMap []
    createdAt := ← cells.get "created_at" Decoder.text }

def toJson (detail : SessionDetail) : Json :=
  .object [
    ("id", .string detail.id.toString),
    ("description", optionalText detail.description),
    ("status", optionalStatus detail.status),
    ("baggage", detail.baggage.getD .null),
    ("labels", labelsJson detail.labels),
    ("created_at", .string detail.createdAt)]

end SessionDetail

end Record
end TestQuery
