import TestQuery.Json.Decoder
import TestQuery.Plan.Listing
import TestQuery.Query.Reading
import TestQuery.Service.Error

namespace TestQuery
namespace Service

open Json

/-!
# Parameters of a call

A query text with a page window that takes precedence over that of the text.
-/

/-- What a caller asks for. -/
structure Params where
  text : String := ""
  /-- Takes precedence if it is positive. -/
  offset : Int := 0
  /-- Takes precedence if it is an admissible page size. -/
  limit : Int := 0
deriving DecidableEq

namespace Params

def layout : Layout where
  name := "QueryParams"
  columns := [
    .spare "query" Decoder.text,
    .spare "offset" Decoder.integer,
    .spare "limit" Decoder.integer]

def decode : Decoder Params := fun value => do
  let cells ← layout.cells value
  return {
    text := ← cells.getD "query" Decoder.text ""
    offset := ← cells.getD "offset" Decoder.integer 0
    limit := ← cells.getD "limit" Decoder.integer 0 }

def toJson (params : Params) : Json :=
  .object [
    ("query", .string params.text),
    ("offset", .int params.offset),
    ("limit", .int params.limit)]

/-- The query of the text, checked for its purpose.  An empty text asks for
everything. -/
def query (params : Params) (purpose : Query.Purpose) : Except Query.Error Query :=
  if params.text = "" then .ok {}
  else do
    let query ← (Query.read params.text).mapError .malformed
    (query.check purpose).mapError .unsuitable
    return query

/-- Put the page window of the parameters in place of the query's. -/
def override (params : Params) (query : Query) : Query :=
  { query with
    offset := if 0 < params.offset then params.offset else query.offset
    limit :=
      if 0 < params.limit ∧ params.limit ≤ Query.greatestLimit then params.limit
      else query.limit }

/-- The query that a call is about. -/
def prepare (params : Params) (purpose : Query.Purpose) : Except Query.Error Query :=
  (params.query purpose).map params.override

end Params

end Service
end TestQuery
