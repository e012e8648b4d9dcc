import TestQuery.Proofs.Plan.Isolation
import TestQuery.Proofs.Service.Calls

namespace TestQuery
namespace Service

open Record
open Exchange (answered)
open Json (Cells)
open Query (Purpose)

/-!
# What the executor sees

An executor sees nothing of a call but its plans.  A list sends one plan, or none if its
query is refused; a lookup sends a second one, for the labels, after the first has given a
row that can be read.  Each of them is for the owner of the call at hand.

The service keeps nothing from one call to the next.  So this holds of each call in a row
of calls, however the executor answered before, and however it answers now.
-/

/-! ## Calls of every kind -/

/-- What a call asks for. -/
inductive Demand where
  /-- A list, or an enumeration of groups. -/
  | list (purpose : Purpose) (params : Params)
  /-- One record. -/
  | lookup (record : RecordName) (id : Uuid)

/-- What answers the demand. -/
def Demand.Answer : Demand → Type
  | .list .testcases _ => Results Testcase
  | .list .sessions _ => Results Session
  | .list .groups _ => Results Group
  | .lookup .testcase _ => TestcaseDetail
  | .lookup .session _ => SessionDetail

def Demand.call (settings : Settings) (owner : Uuid) : (demand : Demand) → Call demand.Answer
  | .list .testcases params => queryTestcases settings owner params
  | .list .sessions params => querySessions settings owner params
  | .list .groups params => queryGroups settings owner params
  | .lookup .testcase id => getTestcase settings owner id
  | .lookup .session id => getSession settings owner id

/-- A demand and whose it is. -/
structure Request where
  owner : Uuid
  demand : Demand

/-- The plans of one request after another.  The executor may change its ways between
them. -/
def served (settings : Settings) :
    (history : List Plan) → List (Request × Executor) → List (List (Plan × Response))
  | _, [] => []
  | history, (request, executor) :: others =>
    let first := seen executor history (request.demand.call settings request.owner)
    first :: served settings ((first.map Prod.fst).reverse ++ history) others

/-! ## What is due -/

/-- The plan that a record is looked up by. -/
def lookupPlan (settings : Settings) (owner : Uuid) : RecordName → Uuid → Plan
  | .testcase => Plan.testcaseLookup settings owner
  | .session => Plan.sessionLookup settings owner

/-- The row is a record, and this is the session that it is or belongs to. -/
def SessionIn (record : RecordName) (row : Cells) (session : Uuid) : Prop :=
  match record with
  | .testcase => ∃ detail, TestcaseDetailRow row detail ∧ detail.sessionId = session
  | .session => ∃ detail, SessionDetailRow row detail ∧ detail.id = session

/-- The plan could be run and gave a first row, which has this session. -/
def SessionFound (record : RecordName) (response : Response) (session : Uuid) : Prop :=
  ∃ row others, response = .ok (row :: others) ∧ SessionIn record row session

/-- The plans that the executor is to see of a demand, with its answers to them. -/
inductive Due (settings : Settings) (owner : Uuid) : Demand → List (Plan × Response) → Prop where
  /-- An enumeration without a query. -/
  | noText {params : Params} (noText : params.text = "") :
      Due settings owner (.list .groups params) []
  | malformed {purpose : Purpose} {params : Params} {error : Query.SyntaxError}
      (given : params.text ≠ "") (refused : Query.read params.text = .error error) :
      Due settings owner (.list purpose params) []
  | unsuitable {purpose : Purpose} {params : Params} {query : Query} {fault : Query.PurposeFault}
      (given : params.text ≠ "") (read : Query.read params.text = .ok query)
      (refused : query.check purpose = .error fault) : Due settings owner (.list purpose params) []
  | unplanned {purpose : Purpose} {params : Params} {query : Query} {error : Query.Error}
      (accepted : Accepted purpose params.text query)
      (refused : Plan.ofQuery settings owner (params.override query) purpose = .error error) :
      Due settings owner (.list purpose params) []
  | planned {purpose : Purpose} {params : Params} {query : Query} {plan : Plan}
      (accepted : Accepted purpose params.text query)
      (planned : Plan.ofQuery settings owner (params.override query) purpose = .ok plan)
      (response : Response) :
      Due settings owner (.list purpose params) [(plan, response)]
  /-- The plan could not be run, or gave no row, or its first row is no record. -/
  | missed {record : RecordName} {id : Uuid} {response : Response}
      (missed : ∀ session, ¬ SessionFound record response session) :
      Due settings owner (.lookup record id) [(lookupPlan settings owner record id, response)]
  | found {record : RecordName} {id session : Uuid} {response : Response}
      (found : SessionFound record response session) (labels : Response) :
      Due settings owner (.lookup record id)
        [(lookupPlan settings owner record id, response),
          (Plan.labelLookup settings owner session, labels)]

/-! ## The plans of single steps -/

section

variable {α : Type} (executor : Executor) (history : List Plan)

/-- A fetch sends its plan; the call goes on if the plan could be run. -/
theorem seen_fetch_bind (plan : Plan) (next : List Cells → Call α) :
    seen executor history (fetch plan >>= next) =
      (plan, executor history plan) ::
        match executor history plan with
        | .ok rows => seen executor (plan :: history) (next rows)
        | .error _ => [] := by
  change answered executor history ((Exchange.send plan _).runFrom executor history).1 = _
  simp only [Exchange.runFrom, answered]
  cases executor history plan <;> rfl

/-- Where nothing is sent afterwards, the plan is all that is seen. -/
theorem seen_fetch_of_silent (plan : Plan) {next : List Cells → Call α}
    (silent : ∀ rows, seen executor (plan :: history) (next rows) = []) :
    seen executor history (fetch plan >>= next) = [(plan, executor history plan)] := by
  rw [seen_fetch_bind]
  cases executor history plan with
  | error reason => rfl
  | ok rows => exact congrArg (_ :: ·) (silent rows)

end

/-! ## Lists -/

section

variable {settings : Settings} {owner : Uuid} {purpose : Purpose} {params : Params}

/-- A list sends its plan if there is one, and no other. -/
theorem due_listCall {α : Type} (asked : purpose = .groups → params.text ≠ "")
    (decode : Plan → List Cells → Except Json.Fault α) (executor : Executor)
    (history : List Plan) :
    Due settings owner (.list purpose params)
      (seen executor history (listCall settings owner params purpose decode)) := by
  have spec := prepared_prepare asked
  generalize prepared : params.prepare purpose = outcome at spec
  cases spec with
  | malformed given refused =>
      rw [listCall_of_unprepared decode prepared]
      exact .malformed given refused
  | unsuitable given read refused =>
      rw [listCall_of_unprepared decode prepared]
      exact .unsuitable given read refused
  | @accepted query accepted =>
      cases planned : Plan.ofQuery settings owner (params.override query) purpose with
      | error error =>
          rw [listCall_of_unplanned decode prepared planned]
          exact .unplanned accepted planned
      | ok plan =>
          rw [seen_listCall decode prepared planned]
          exact .planned accepted planned _

/-- Every list fetches the rows of its query and decodes them. -/
theorem call_eq_listCall (settings : Settings) (owner : Uuid)
    (asked : purpose = .groups → params.text ≠ "") :
    ∃ decode, (Demand.list purpose params).call settings owner =
      listCall settings owner params purpose decode := by
  cases purpose with
  | testcases => exact ⟨_, queryTestcases_eq_listCall⟩
  | sessions => exact ⟨_, querySessions_eq_listCall⟩
  | groups => exact ⟨_, queryGroups_eq_listCall (asked rfl)⟩

theorem due_list (executor : Executor) (history : List Plan) :
    Due settings owner (.list purpose params)
      (seen executor history ((Demand.list purpose params).call settings owner)) := by
  by_cases noText : purpose = .groups ∧ params.text = ""
  · rcases noText with ⟨rfl, noText⟩
    change Due settings owner _ (seen executor history (queryGroups settings owner params))
    rw [queryGroups, if_pos noText]
    exact .noText noText
  · have asked : purpose = .groups → params.text ≠ "" := not_and.mp noText
    rcases call_eq_listCall settings owner asked with ⟨decode, same⟩
    rw [same]
    exact due_listCall asked decode executor history

end

/-! ## Lookups -/

section

variable {α : Type} {settings : Settings} {owner : Uuid} {record : RecordName}

/-- The labels are fetched by one plan. -/
theorem seen_fetchLabels (executor : Executor) (history : List Plan) (session : Uuid)
    (complete : List (String × String) → α) :
    seen executor history (fetchLabels settings owner session >>= fun labels =>
        pure (complete labels)) =
      [(Plan.labelLookup settings owner session,
        executor history (Plan.labelLookup settings owner session))] := by
  unfold fetchLabels
  simp only [bind_assoc, pure_bind]
  apply seen_fetch_of_silent
  intro rows
  cases rows.mapM fun row => Label.decode (.object row) <;> rfl

theorem not_sessionFound {response : Response}
    (noRow : ∀ row others, response ≠ .ok (row :: others)) (session : Uuid) :
    ¬ SessionFound record response session := by
  intro found
  rcases found with ⟨row, others, hasRow, -⟩
  exact noRow row others hasRow

/-- A lookup sends its plan, and that for the labels once it knows the session. -/
theorem due_lookupCall {β : Type} {shows : Cells → α → Prop}
    {decode : Cells → Except Json.Fault α} {sessionOf : α → Uuid}
    (decodes : ∀ row detail, decode row = .ok detail ↔ shows row detail)
    (tells : ∀ row session, SessionIn record row session ↔
      ∃ detail, shows row detail ∧ sessionOf detail = session)
    (complete : α → List (String × String) → β) (executor : Executor) (history : List Plan)
    (id : Uuid) :
    Due settings owner (.lookup record id)
      (seen executor history (lookupCall settings owner (lookupPlan settings owner record id) record
        decode sessionOf complete)) := by
  unfold lookupCall fetchOne
  rw [bind_assoc, seen_fetch_bind]
  cases executor history (lookupPlan settings owner record id) with
  | error reason => exact .missed (not_sessionFound nofun)
  | ok rows =>
      cases rows with
      | nil => exact .missed (not_sessionFound nofun)
      | cons row others =>
          simp only [pure_bind]
          cases decoded : decode row with
          | error fault =>
              apply Due.missed
              intro session found
              rcases found with ⟨first, _, same, isSession⟩
              cases same
              rcases (tells row session).mp isSession with ⟨detail, shown, -⟩
              cases decoded.symm.trans ((decodes row detail).mpr shown)
          | ok detail =>
              simp only [ofRows, pure_bind, seen_fetchLabels]
              have isSession := (tells row _).mpr ⟨detail, (decodes row detail).mp decoded, rfl⟩
              exact .found ⟨row, others, rfl, isSession⟩ _

theorem due_lookup (executor : Executor) (history : List Plan) (id : Uuid) :
    Due settings owner (.lookup record id)
      (seen executor history ((Demand.lookup record id).call settings owner)) := by
  cases record with
  | testcase =>
      exact due_lookupCall (fun _ _ => testcaseDetail_decode_iff) (fun _ _ => Iff.rfl) _ executor
        history id
  | session =>
      exact due_lookupCall (fun _ _ => sessionDetail_decode_iff) (fun _ _ => Iff.rfl) _ executor
        history id

end

/-! ## Owners and pages -/

/-- The page has at least one row to give, and no more than a hundred. -/
def PageInBounds (plan : Plan) : Prop :=
  ∃ page, plan.page = some page ∧ plan.statement.outer.limit = some page.limit ∧
    1 ≤ page.limit ∧ page.limit ≤ 100

theorem limit_windowOf (query : Query) (page : Plan.Page) (purpose : Purpose) :
    (Plan.windowOf query page purpose).limit = some page.limit := by
  cases purpose <;> rfl

theorem pageInBounds_of_ok {settings : Settings} {owner : Uuid} {query : Query} {purpose : Purpose}
    {plan : Plan} (success : Plan.ofQuery settings owner query purpose = .ok plan) :
    PageInBounds plan := by
  rcases Plan.assembled_of_ok success with ⟨page, pins, paged, -, -, rfl⟩
  have inBounds := (Plan.inBounds_of_pageOf paged).limit
  have limit := (Plan.pageOf_eq_ok paged).2
  refine ⟨page, rfl, limit_windowOf query page purpose, ?_⟩
  rw [limit, Plan.limitOf]
  split <;> omega

theorem Due.testsOwner {settings : Settings} {owner : Uuid} {demand : Demand}
    {plans : List (Plan × Response)} (due : Due settings owner demand plans) :
    ∀ given ∈ plans, given.1.TestsOwner owner := by
  have lookup (record : RecordName) (id : Uuid) :
      (lookupPlan settings owner record id).TestsOwner owner := by
    cases record with
    | testcase => exact (Plan.Issued.testcase id).testsOwner
    | session => exact (Plan.Issued.session id).testsOwner
  cases due with
  | planned accepted planned response =>
      exact List.forall_mem_singleton.mpr (Plan.Issued.query planned).testsOwner
  | missed => exact List.forall_mem_singleton.mpr (lookup _ _)
  | found =>
      refine List.forall_mem_cons.mpr ⟨lookup _ _, List.forall_mem_singleton.mpr ?_⟩
      exact (Plan.Issued.labels _).testsOwner
  | _ => exact List.forall_mem_nil _

theorem Due.pageInBounds {settings : Settings} {owner : Uuid} {purpose : Purpose} {params : Params}
    {plans : List (Plan × Response)} (due : Due settings owner (.list purpose params) plans) :
    ∀ given ∈ plans, given.1.kind = Plan.kindOf purpose ∧ PageInBounds given.1 := by
  cases due with
  | planned accepted planned response =>
      exact List.forall_mem_singleton.mpr ⟨kind_of_planned planned, pageInBounds_of_ok planned⟩
  | _ => exact List.forall_mem_nil _

/-! ## Calls one after another -/

/-- One call sends what is due, whatever was sent before it. -/
theorem due_seen (settings : Settings) (request : Request) (executor : Executor)
    (history : List Plan) :
    Due settings request.owner request.demand
      (seen executor history (request.demand.call settings request.owner)) := by
  rcases request with ⟨owner, demand⟩
  cases demand with
  | list purpose params => exact due_list executor history
  | lookup record id => exact due_lookup executor history id

/-- Of each call in a row of calls the executor sees the plans that are due, in their order
and no others.  All of them test for the owner of that call, and a list is of the kind
that was asked for and has a page within bounds. -/
theorem executor_sees_what_is_due (settings : Settings) (history : List Plan)
    (calls : List (Request × Executor)) :
    List.Forall₂ (fun call plans =>
        Due settings call.1.owner call.1.demand plans ∧
          (∀ given ∈ plans, given.1.TestsOwner call.1.owner) ∧
          ∀ purpose params, call.1.demand = .list purpose params → ∀ given ∈ plans,
            given.1.kind = Plan.kindOf purpose ∧ PageInBounds given.1)
      calls (served settings history calls) := by
  induction calls generalizing history with
  | nil => exact .nil
  | cons call calls inductionHypothesis =>
      have due := due_seen settings call.1 call.2 history
      refine .cons ⟨due, due.testsOwner, ?_⟩ (inductionHypothesis _)
      intro purpose params isList
      rw [isList] at due
      rw [isList]
      exact due.pageInBounds

end Service
end TestQuery
