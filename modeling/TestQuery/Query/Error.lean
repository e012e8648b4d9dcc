import TestQuery.Query.SyntaxError

namespace TestQuery
namespace Query

/-!
# Errors of queries

What can go wrong between a query text and a plan: the text is no query, the
query does not suit its purpose, the query cannot be planned, or a query was
handed over that the stages before could not have produced.
-/

/-- A query that does not suit its purpose. -/
inductive PurposeFault where
  | selectorRequired
  | selectorCountMismatch
  | groupByRequired
deriving DecidableEq, Repr

def PurposeFault.message : PurposeFault → String
  | .selectorRequired =>
    "group selector is required when grouping results. Use: group_by(...) group = (...)"
  | .selectorCountMismatch =>
    "group selector must have same number of values as group_by columns count"
  | .groupByRequired => "group_by is required"

/-- The page size of a query that asks for none. -/
def usualLimit : Nat := 100

/-- The greatest page size. -/
def greatestLimit : Nat := 100

/-- A query that cannot be planned. -/
inductive PlanFault where
  | negativeOffset
  | negativeLimit
  | excessiveLimit
  | invalidSelector (value : String)
deriving DecidableEq, Repr

def PlanFault.message : PlanFault → String
  | .negativeOffset => "offset must be non-negative"
  | .negativeLimit => "limit must be positive"
  | .excessiveLimit => s!"limit cannot exceed {greatestLimit}"
  | .invalidSelector value => "invalid selector value: " ++ value

/-- A query that reading and checking never let through. -/
inductive InvariantFault where
  | firstConnective
  | selectorMismatch
deriving DecidableEq, Repr

def InvariantFault.message : InvariantFault → String
  | .firstConnective => "invalid operator in the first part of compound select query"
  | .selectorMismatch => "grouping/selector mismatch"

/-- An error of any stage. -/
inductive Error where
  | malformed (error : SyntaxError)
  | unsuitable (fault : PurposeFault)
  | unplannable (fault : PlanFault)
  | invariant (fault : InvariantFault)
deriving DecidableEq, Repr

namespace Error

def message : Error → String
  | .malformed error => "syntax error: " ++ error.fault.message
  | .unsuitable fault => fault.message
  | .unplannable fault => fault.message
  | .invariant fault => "internal error: " ++ fault.message

/-- The place of an error, where it has one. -/
def span? : Error → Option Text.Span
  | .malformed error => error.span
  | _ => none

/-- Is the error a fault of this library rather than of its input? -/
def isInternal : Error → Bool
  | .invariant _ => true
  | _ => false

end Error

end Query
end TestQuery
