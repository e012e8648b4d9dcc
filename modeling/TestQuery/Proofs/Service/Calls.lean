import TestQuery.Proofs.Record.Rows
import TestQuery.Proofs.Service.Exchange
import TestQuery.Proofs.Service.Params
import TestQuery.Service

namespace TestQuery
namespace Service

open Record
open Exchange (answered)
open Json (Cells)
open Query (Purpose)

/-!
# Lists and lookups

Every call has one of two forms.  A list fetches the rows of its query by one plan and decodes
them, or it fails without a plan.  A lookup decodes the first row of its plan and completes the
record with labels, which are fetched by a second plan.
-/

/-- How an executor answers a plan.  It knows the plans that it has run before, the latest
first. -/
abbrev Executor := List Plan → Plan → Response

/-- The plans that a call sends, each with the answer to it. -/
def seen {α : Type} (executor : Executor) (history : List Plan) (call : Call α) :
    List (Plan × Response) :=
  answered executor history (call.run.runFrom executor history).1

/-! ## Lists -/

section

variable {α : Type} {settings : Settings} {owner : Uuid} {params : Params} {purpose : Purpose}

/-- The call that fetches the rows of a query and decodes them. -/
def listCall (settings : Settings) (owner : Uuid) (params : Params) (purpose : Purpose)
    (decode : Plan → List Cells → Except Json.Fault α) : Call α :=
  rowsOf settings owner params purpose >>= fun found => ofRows (decode found.1 found.2)

theorem queryTestcases_eq_listCall : queryTestcases settings owner params =
    listCall settings owner params .testcases fun _ =>
      decodeList fun row => Testcase.decode (.object row) := rfl

theorem querySessions_eq_listCall : querySessions settings owner params =
    listCall settings owner params .sessions fun _ =>
      decodeList fun row => Session.decode (.object row) := rfl

theorem queryGroups_eq_listCall (given : params.text ≠ "") : queryGroups settings owner params =
    listCall settings owner params .groups fun plan => decodeGroups plan.groupColumns := by
  rw [queryGroups, if_neg given]
  rfl

variable (decode : Plan → List Cells → Except Json.Fault α)

theorem listCall_of_unprepared {error : Query.Error}
    (unprepared : params.prepare purpose = .error error) :
    listCall settings owner params purpose decode = throw (.query error) := by
  rw [listCall, rowsOf, unprepared]
  rfl

theorem listCall_of_unplanned {query : Query} {error : Query.Error}
    (prepared : params.prepare purpose = .ok query)
    (unplanned : Plan.ofQuery settings owner query purpose = .error error) :
    listCall settings owner params purpose decode = throw (.query error) := by
  simp only [listCall, rowsOf, prepared, ofQuery, unplanned, pure_bind]
  rfl

theorem listCall_of_planned {query : Query} {plan : Plan}
    (prepared : params.prepare purpose = .ok query)
    (planned : Plan.ofQuery settings owner query purpose = .ok plan) :
    listCall settings owner params purpose decode =
      fetch plan >>= fun rows => ofRows (decode plan rows) := by
  simp only [listCall, rowsOf, prepared, ofQuery, planned, pure_bind, bind_assoc]

/-- A list fails without a plan, or its query has one. -/
theorem listCall_cases :
    (∃ error, listCall settings owner params purpose decode = throw error) ∨
      ∃ query plan, params.prepare purpose = .ok query ∧
        Plan.ofQuery settings owner query purpose = .ok plan := by
  cases prepared : params.prepare purpose with
  | error error => exact .inl ⟨_, listCall_of_unprepared decode prepared⟩
  | ok query =>
      cases planned : Plan.ofQuery settings owner query purpose with
      | error error => exact .inl ⟨_, listCall_of_unplanned decode prepared planned⟩
      | ok plan => exact .inr ⟨query, plan, rfl, planned⟩

/-- A fetch sends its plan; rows are decoded, and a failure is passed on. -/
theorem run_fetch_ofRows (plan : Plan) (decode : List Cells → Except Json.Fault α)
    (executor : Executor) (history : List Plan) :
    (fetch plan >>= fun rows => ofRows (decode rows)).run.runFrom executor history =
      ([plan], match executor history plan with
        | .error reason => .error (.execution reason)
        | .ok rows => (decode rows).mapError .decode) := by
  change (Exchange.send plan _).runFrom executor history = _
  rw [Exchange.runFrom]
  cases executor history plan with
  | error reason => rfl
  | ok rows =>
      change (plan :: ((ofRows (decode rows)).run.runFrom executor _).1,
        ((ofRows (decode rows)).run.runFrom executor _).2) =
          ([plan], (decode rows).mapError .decode)
      cases decode rows <;> rfl

/-- A list that has a plan sends it, and what answers the plan decides. -/
theorem run_listCall {query : Query} {plan : Plan} (prepared : params.prepare purpose = .ok query)
    (planned : Plan.ofQuery settings owner query purpose = .ok plan) (executor : Executor)
    (history : List Plan) :
    (listCall settings owner params purpose decode).run.runFrom executor history =
      ([plan], match executor history plan with
        | .error reason => .error (.execution reason)
        | .ok rows => (decode plan rows).mapError .decode) := by
  rw [listCall_of_planned decode prepared planned]
  exact run_fetch_ofRows plan (decode plan) executor history

theorem seen_listCall {query : Query} {plan : Plan} (prepared : params.prepare purpose = .ok query)
    (planned : Plan.ofQuery settings owner query purpose = .ok plan) (executor : Executor)
    (history : List Plan) :
    seen executor history (listCall settings owner params purpose decode) =
      [(plan, executor history plan)] := by
  rw [seen, run_listCall decode prepared planned]
  rfl

end

theorem kind_of_planned {settings : Settings} {owner : Uuid} {query : Query} {purpose : Purpose}
    {plan : Plan} (planned : Plan.ofQuery settings owner query purpose = .ok plan) :
    plan.kind = Plan.kindOf purpose := by
  rcases Plan.assembled_of_ok planned with ⟨page, pins, -, -, -, rfl⟩
  rfl

theorem columns_of_planned {settings : Settings} {owner : Uuid} {query : Query} {plan : Plan}
    (planned : Plan.ofQuery settings owner query .groups = .ok plan) :
    plan.groupColumns = Plan.groupColumnsOf (Plan.keysOf query) := by
  rcases Plan.assembled_of_ok planned with ⟨page, pins, -, -, -, rfl⟩
  rfl

/-! ## Pages -/

/-- The number of matching records that the rows of a page tell.  Where there are no rows
nothing matches. -/
inductive TellsCount : List Cells → Int → Prop where
  | nothing : TellsCount [] 0
  | first {row : Cells} {rows : List Cells} {count : Int}
      (told : TellsNumber row "total_count" count) : TellsCount (row :: rows) count

theorem totalCount_eq_ok_iff {rows : List Cells} {count : Int} :
    totalCount rows = .ok count ↔ TellsCount rows count := by
  cases rows with
  | nil =>
      constructor
      · intro counted
        cases counted
        exact .nothing
      · intro told
        cases told
        rfl
  | cons row rows =>
      rw [totalCount, int_eq_ok_iff]
      constructor
      · exact .first
      · intro told
        cases told with
        | first told => exact told

theorem decodeList_eq_ok_iff {α : Type} {shows : Cells → α → Prop}
    {decode : Cells → Except Json.Fault α}
    (decodes : ∀ row record, decode row = .ok record ↔ shows row record) {rows : List Cells}
    {results : Results α} :
    decodeList decode rows = .ok results ↔
      TellsCount rows results.totalCount ∧ List.Forall₂ shows rows results.results := by
  simp only [decodeList, bind_eq_ok_iff, totalCount_eq_ok_iff, mapM_eq_ok_iff, decodes]
  constructor
  · intro decoded
    rcases decoded with ⟨count, told, records, shown, done⟩
    cases done
    exact ⟨told, shown⟩
  · intro decoded
    exact ⟨_, decoded.1, _, decoded.2, rfl⟩

/-- A page is decoded if it tells how many records match and each of its rows is a record. -/
theorem exists_decodeList_iff {α : Type} {shows : Cells → α → Prop}
    {decode : Cells → Except Json.Fault α}
    (decodes : ∀ row record, decode row = .ok record ↔ shows row record) (rows : List Cells) :
    (∃ results, decodeList decode rows = .ok results) ↔
      (∃ count, TellsCount rows count) ∧ ∀ row ∈ rows, ∃ record, shows row record := by
  simp only [decodeList_eq_ok_iff decodes, ← exists_forall₂_iff]
  constructor
  · intro decoded
    rcases decoded with ⟨results, told, shown⟩
    exact ⟨⟨_, told⟩, _, shown⟩
  · intro decoded
    rcases decoded with ⟨⟨count, told⟩, records, shown⟩
    exact ⟨⟨records, count⟩, told, shown⟩

/-! ## Lookups -/

/-- The call that looks a record up and completes it with the labels of its session. -/
def lookupCall {α β : Type} (settings : Settings) (owner : Uuid) (lookup : Plan)
    (record : RecordName) (decode : Cells → Except Json.Fault α) (sessionOf : α → Uuid)
    (complete : α → List (String × String) → β) : Call β :=
  fetchOne lookup record >>= fun row => ofRows (decode row) >>= fun detail =>
    fetchLabels settings owner (sessionOf detail) >>= fun labels => pure (complete detail labels)

theorem getTestcase_eq_lookupCall (settings : Settings) (owner id : Uuid) :
    getTestcase settings owner id =
      lookupCall settings owner (Plan.testcaseLookup settings owner id) .testcase
        (fun row => TestcaseDetail.decode (.object row)) (·.sessionId)
        fun detail labels => { detail with labels := labels } := rfl

theorem getSession_eq_lookupCall (settings : Settings) (owner id : Uuid) :
    getSession settings owner id =
      lookupCall settings owner (Plan.sessionLookup settings owner id) .session
        (fun row => SessionDetail.decode (.object row)) (·.id)
        fun detail labels => { detail with labels := labels } := rfl

end Service
end TestQuery
