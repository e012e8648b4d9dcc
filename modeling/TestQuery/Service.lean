import TestQuery.Plan.Lookup
import TestQuery.Record.Group
import TestQuery.Record.Label
import TestQuery.Record.Session
import TestQuery.Service.Exchange
import TestQuery.Service.Params

namespace TestQuery

/-!
# The service

Query texts in, records out.  A call plans its statement, sends it and decodes the
rows that come back.  A query at fault never reaches the executor.
-/

namespace Service

open Record

/-- A call that may fail. -/
abbrev Call := ExceptT Error Exchange

/-- Fail with a fault of the query, if there is one. -/
def ofQuery {α : Type} (outcome : Except Query.Error α) : Call α :=
  match outcome with
  | .ok result => pure result
  | .error error => throw (.query error)

/-- Fail with a fault of a row, if there is one. -/
def ofRows {α : Type} (outcome : Except Json.Fault α) : Call α :=
  match outcome with
  | .ok result => pure result
  | .error fault => throw (.decode fault)

def fetch (plan : Plan) : Call (List Json.Cells) := do
  let response : Response ← ExceptT.lift (Exchange.request plan)
  match response with
  | .ok rows => return rows
  | .error reason => throw (.execution reason)

/-- Some of the records that match, and how many match. -/
structure Results (α : Type) where
  results : List α
  totalCount : Int

/-- The number of matching records.  Every row repeats it; where there is no row,
there is nothing to count. -/
def totalCount (rows : List Json.Cells) : Except Json.Fault Int :=
  match rows with
  | [] => .ok 0
  | row :: _ => row.int "total_count"

/-- Plan the query of a call and fetch its rows. -/
def rowsOf (settings : Settings) (owner : Uuid) (params : Params) (purpose : Query.Purpose) :
    Call (Plan × List Json.Cells) := do
  let query ← ofQuery (params.prepare purpose)
  let plan ← ofQuery (Plan.ofQuery settings owner query purpose)
  let rows ← fetch plan
  return (plan, rows)

/-- The records of a list. -/
def decodeList {α : Type} (decode : Json.Cells → Except Json.Fault α)
    (rows : List Json.Cells) : Except Json.Fault (Results α) := do
  let total ← totalCount rows
  let results ← rows.mapM decode
  return ⟨results, total⟩

/-- The groups of an enumeration.  A count of zero beside rows counts for nothing. -/
def decodeGroups (columns : List Plan.GroupColumn) (rows : List Json.Cells) :
    Except Json.Fault (Results Group) := do
  let list ← decodeList (Group.decode columns) rows
  return { list with
    totalCount := if list.totalCount = 0 then list.results.length else list.totalCount }

/-- The testcases of the owner that match, the newest first. -/
def queryTestcases (settings : Settings) (owner : Uuid) (params : Params) :
    Call (Results Testcase) := do
  let (_, rows) ← rowsOf settings owner params .testcases
  ofRows (decodeList (fun row => Testcase.decode (.object row)) rows)

/-- The sessions of the owner that match, the newest first. -/
def querySessions (settings : Settings) (owner : Uuid) (params : Params) :
    Call (Results Session) := do
  let (_, rows) ← rowsOf settings owner params .sessions
  ofRows (decodeList (fun row => Session.decode (.object row)) rows)

/-- The groups of the owner's testcases that match.  There has to be a query. -/
def queryGroups (settings : Settings) (owner : Uuid) (params : Params) :
    Call (Results Group) :=
  if params.text = "" then throw .missingQuery
  else do
    let (plan, rows) ← rowsOf settings owner params .groups
    ofRows (decodeGroups plan.groupColumns rows)

/-- The first row of a lookup. -/
def fetchOne (plan : Plan) (record : RecordName) : Call Json.Cells := do
  let rows ← fetch plan
  match rows with
  | row :: _ => return row
  | [] => throw (.notFound record)

def fetchLabels (settings : Settings) (owner session : Uuid) : Call (List (String × String)) := do
  let rows ← fetch (Plan.labelLookup settings owner session)
  let labels ← ofRows (rows.mapM fun row => Label.decode (.object row))
  return Label.collect labels

/-- One testcase of the owner, with the labels of its session. -/
def getTestcase (settings : Settings) (owner id : Uuid) : Call TestcaseDetail := do
  let row ← fetchOne (Plan.testcaseLookup settings owner id) .testcase
  let detail ← ofRows (TestcaseDetail.decode (.object row))
  let labels ← fetchLabels settings owner detail.sessionId
  return { detail with labels := labels }

/-- One session of the owner, with its labels. -/
def getSession (settings : Settings) (owner id : Uuid) : Call SessionDetail := do
  let row ← fetchOne (Plan.sessionLookup settings owner id) .session
  let detail ← ofRows (SessionDetail.decode (.object row))
  let labels ← fetchLabels settings owner detail.id
  return { detail with labels := labels }

end Service

end TestQuery
