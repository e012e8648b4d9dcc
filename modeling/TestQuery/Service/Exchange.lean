import TestQuery.Json.Decoder
import TestQuery.Plan

namespace TestQuery
namespace Service

/-!
# Exchanges

A call to the service is an exchange with whoever runs its plans: it either is
over, or sends a plan and goes on with the answer.  The exchange itself knows no
database; all that can be observed of a call is the plans it sends and its result.
-/

/-- The answer to a plan: its rows, or why it failed. -/
abbrev Response := Except String (List Json.Cells)

/-- A call under way. -/
inductive Exchange (α : Type) where
  /-- The call is over. -/
  | done (result : α)
  /-- A plan is sent, and the call goes on with the response. -/
  | send (plan : Plan) (resume : Response → Exchange α)

namespace Exchange

variable {α β : Type}

/-- Go on with the result of an exchange. -/
protected def bind : Exchange α → (α → Exchange β) → Exchange β
  | .done result, next => next result
  | .send plan resume, next => .send plan fun response => (resume response).bind next

instance : Monad Exchange where
  pure := .done
  bind := Exchange.bind

/-- Send one plan. -/
def request (plan : Plan) : Exchange Response :=
  .send plan .done

/-- Hold the exchange with an executor.  The executor knows the plans it has run
before, the latest first, so it may answer the same plan differently.  Gives the
plans that were sent, in order, and the result. -/
def runFrom (respond : List Plan → Plan → Response) : List Plan → Exchange α → List Plan × α
  | _, .done result => ([], result)
  | history, .send plan resume =>
    let (others, result) := runFrom respond (plan :: history) (resume (respond history plan))
    (plan :: others, result)

/-- Hold the exchange with an executor that answers each plan by itself. -/
def run (respond : Plan → Response) (exchange : Exchange α) : List Plan × α :=
  exchange.runFrom (fun _ => respond) []

end Exchange

end Service
end TestQuery
