import TestQuery.Json.Decoder
import TestQuery.Query.Error

namespace TestQuery
namespace Service

/-!
# Errors of the service
-/

/-- The records that are looked up by id. -/
inductive RecordName where
  | testcase
  | session
deriving DecidableEq, Repr

def RecordName.name : RecordName → String
  | .testcase => "testcase"
  | .session => "session"

/-- Why a call failed. -/
inductive Error where
  /-- The query is at fault. -/
  | query (error : Query.Error)
  /-- An enumeration of groups was asked for without a query. -/
  | missingQuery
  /-- The owner owns no such record. -/
  | notFound (record : RecordName)
  /-- A plan could not be run. -/
  | execution (reason : String)
  /-- A row is not what it should be. -/
  | decode (fault : Json.Fault)

namespace Error

def message : Error → String
  | .query error => "invalid query: " ++ error.message
  | .missingQuery => "query is required for group queries"
  | .notFound record => record.name ++ " not found"
  | .execution reason => "query execution failed: " ++ reason
  | .decode fault => "unexpected row shape: " ++ fault.message

/-- Is the failure no fault of the caller? -/
def isInternal : Error → Bool
  | .query error => error.isInternal
  | .missingQuery => false
  | .notFound _ => false
  | .execution _ => true
  | .decode _ => true

end Error

end Service
end TestQuery
