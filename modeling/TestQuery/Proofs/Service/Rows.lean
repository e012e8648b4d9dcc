import TestQuery.Proofs.Service.Calls

namespace TestQuery
namespace Service

open Record
open Json (Cells)
open Query (Purpose)

/-!
# What becomes of rows

A list gives one record for each row that was fetched, in the order of the rows, or it gives
none: a row that is no record refuses the whole page, and so does a first row that does not say
how many records match.
-/

/-! ## Pages -/

/-- What a call makes of a page.  It succeeds if the number of matching records is told and
every row is a record; then it gives one record for each row, in their order.  Otherwise it
reports that the number is missing, or else why the first row that is no record is none. -/
structure Reported {α : Type} (shows : Cells → α → Prop) (decode : Cells → Except Json.Fault α)
    (total : Int → Int) (rows : List Cells) (outcome : Except Error (Results α)) : Prop where
  succeeds : (∃ results, outcome = .ok results) ↔
    (∃ count, TellsCount rows count) ∧ ∀ row ∈ rows, ∃ record, shows row record
  records : ∀ results, outcome = .ok results → List.Forall₂ shows rows results.results
  totalCount : ∀ results, outcome = .ok results →
    ∃ count, TellsCount rows count ∧ results.totalCount = total count
  fails : ∀ error, outcome = .error error → ∃ fault, error = .decode fault
  uncounted : (∀ count, ¬ TellsCount rows count) →
    outcome = .error (.decode (.notInteger "total_count"))
  misshapen : ∀ count front row back, TellsCount rows count → rows = front ++ row :: back →
    (∀ earlier ∈ front, ∃ record, shows earlier record) → (∀ record, ¬ shows row record) →
    ∃ fault, decode row = .error fault ∧ outcome = .error (.decode fault)

theorem totalCount_eq_error {rows : List Cells} (untold : ∀ count, ¬ TellsCount rows count) :
    totalCount rows = .error (.notInteger "total_count") := by
  cases rows with
  | nil => exact absurd .nothing (untold 0)
  | cons row rows => exact int_eq_error fun count told => untold count (.first told)

theorem reported_decodeList {α : Type} {shows : Cells → α → Prop}
    {decode : Cells → Except Json.Fault α}
    (decodes : ∀ row record, decode row = .ok record ↔ shows row record) (rows : List Cells) :
    Reported shows decode id rows ((decodeList decode rows).mapError .decode) := by
  have same {results : Results α} : (decodeList decode rows).mapError Error.decode = .ok results ↔
      decodeList decode rows = .ok results := by
    cases decodeList decode rows <;> simp [Except.mapError]
  have given {results : Results α} : (decodeList decode rows).mapError Error.decode = .ok results ↔
      TellsCount rows results.totalCount ∧ List.Forall₂ shows rows results.results :=
    same.trans (decodeList_eq_ok_iff decodes)
  refine ⟨?_, ?_, ?_, ?_, ?_, ?_⟩
  · simp only [same]
    exact exists_decodeList_iff decodes rows
  · intro results success
    exact (given.mp success).2
  · intro results success
    exact ⟨_, (given.mp success).1, rfl⟩
  · intro error failure
    cases decoded : decodeList decode rows with
    | error fault =>
        rw [decoded] at failure
        exact ⟨fault, (Except.error.inj failure).symm⟩
    | ok results =>
        rw [decoded] at failure
        cases failure
  · intro untold
    rw [decodeList, totalCount_eq_error untold]
    rfl
  · intro count front row back told split before unshown
    cases decoded : decode row with
    | ok record => exact absurd ((decodes row record).mp decoded) (unshown record)
    | error fault =>
        refine ⟨fault, rfl, ?_⟩
        have earlier : ∀ row ∈ front, ∃ record, decode row = .ok record := by
          simpa only [decodes] using before
        rw [decodeList, totalCount_eq_ok_iff.mpr told, split, mapM_of_first_error earlier decoded]
        rfl

/-- Another count may be put in place of the one that the rows tell. -/
theorem Reported.recounted {α : Type} {shows : Cells → α → Prop}
    {decode : Cells → Except Json.Fault α} {rows : List Cells} {outcome : Except Error (Results α)}
    (reported : Reported shows decode id rows outcome) {total : Int → Int}
    {recount : Results α → Results α}
    (kept : ∀ results, (recount results).results = results.results)
    (counts : ∀ results, results.results.length = rows.length →
      (recount results).totalCount = total results.totalCount) :
    Reported shows decode total rows (outcome.map recount) := by
  have given {results : Results α} : outcome.map recount = .ok results ↔
      ∃ before, outcome = .ok before ∧ recount before = results := by
    cases outcome <;> simp [Except.map]
  have failed {error : Error} : outcome.map recount = .error error ↔ outcome = .error error := by
    cases outcome <;> simp [Except.map]
  refine ⟨?_, ?_, ?_, ?_, ?_, ?_⟩
  · rw [← reported.succeeds]
    constructor
    · rintro ⟨results, success⟩
      rcases given.mp success with ⟨before, earlier, -⟩
      exact ⟨before, earlier⟩
    · rintro ⟨before, earlier⟩
      exact ⟨_, given.mpr ⟨before, earlier, rfl⟩⟩
  · intro results success
    rcases given.mp success with ⟨before, earlier, rfl⟩
    rw [kept]
    exact reported.records before earlier
  · intro results success
    rcases given.mp success with ⟨before, earlier, rfl⟩
    rcases reported.totalCount before earlier with ⟨count, told, same⟩
    have rowForRow := (reported.records before earlier).length_eq
    exact ⟨count, told, (counts before rowForRow.symm).trans (congrArg total same)⟩
  · intro error failure
    exact reported.fails error (failed.mp failure)
  · intro untold
    exact failed.mpr (reported.uncounted untold)
  · intro count front row back told split before unshown
    rcases reported.misshapen count front row back told split before unshown with
      ⟨fault, decoded, failure⟩
    exact ⟨fault, decoded, failed.mpr failure⟩

/-- The number of groups; a page with rows and the number zero is counted anew. -/
def groupTotal (rows : List Cells) (count : Int) : Int :=
  if count = 0 then rows.length else count

theorem reported_decodeGroups (keys : List GroupKey) (rows : List Cells) :
    Reported (GroupRow keys) (Group.decode (Plan.groupColumnsOf keys)) (groupTotal rows) rows
      ((decodeGroups (Plan.groupColumnsOf keys) rows).mapError .decode) := by
  let recount (list : Results Group) : Results Group :=
    { list with totalCount := if list.totalCount = 0 then list.results.length else list.totalCount }
  have recounted : (decodeGroups (Plan.groupColumnsOf keys) rows).mapError Error.decode =
      ((decodeList (Group.decode (Plan.groupColumnsOf keys)) rows).mapError .decode).map
        recount := by
    rw [decodeGroups]
    cases decodeList (Group.decode (Plan.groupColumnsOf keys)) rows <;> rfl
  rw [recounted]
  apply (reported_decodeList (fun _ _ => group_decode_iff) rows).recounted
  · intro results
    rfl
  · intro results rowForRow
    change (if results.totalCount = 0 then (results.results.length : Int) else _) = _
    rw [rowForRow]
    rfl

/-! ## Calls -/

section

variable {α : Type} {settings : Settings} {owner : Uuid} {params : Params} {purpose : Purpose}

/-- Where rows came back, they were fetched by the plan of the query and then decoded. -/
theorem answered_listCall {decode : Plan → List Cells → Except Json.Fault α} {executor : Executor}
    {history : List Plan} {plan : Plan} {rows : List Cells}
    (given : (plan, .ok rows) ∈ seen executor history
      (listCall settings owner params purpose decode)) :
    ∃ query, params.prepare purpose = .ok query ∧
      Plan.ofQuery settings owner query purpose = .ok plan ∧
      ((listCall settings owner params purpose decode).run.runFrom executor history).2 =
        (decode plan rows).mapError .decode := by
  rcases @listCall_cases _ settings owner params purpose decode with
    ⟨error, failure⟩ | ⟨query, sent, prepared, planned⟩
  · rw [failure] at given
    cases given
  · rw [seen_listCall decode prepared planned] at given
    rcases Prod.mk.inj (List.mem_singleton.mp given) with ⟨rfl, answer⟩
    refine ⟨query, prepared, planned, ?_⟩
    rw [run_listCall decode prepared planned, ← answer]

end

/-- An enumeration that is prepared was asked for by a text with keys. -/
theorem keys_of_prepare {params : Params} {query : Query} (given : params.text ≠ "")
    (prepared : params.prepare .groups = .ok query) :
    ∃ own keys, Query.read params.text = .ok own ∧ own.groupBy = some keys ∧
      Plan.keysOf query = keys := by
  have spec : Prepared params .groups (params.prepare .groups) := prepared_prepare fun _ => given
  rw [prepared] at spec
  cases spec with
  | @accepted own accepted =>
      rcases accepted.read with ⟨read, suits⟩
      cases grouped : own.groupBy with
      | none =>
          rw [Query.check, Query.checkGroups, grouped] at suits
          cases suits
      | some keys =>
          refine ⟨own, keys, read, grouped, ?_⟩
          change own.groupBy.getD [] = keys
          rw [grouped]
          rfl

/-- Whatever rows a list is answered with, each of them is reported as the record that it is,
or the list fails.  The groups of an enumeration have a value for each of its keys. -/
theorem every_row_reported (settings : Settings) (owner : Uuid) (params : Params)
    (executor : Executor) (history : List Plan) (plan : Plan) (rows : List Cells) :
    ((plan, .ok rows) ∈ seen executor history (queryTestcases settings owner params) →
      Reported TestcaseRow (fun row => Testcase.decode (.object row)) id rows
        ((queryTestcases settings owner params).run.runFrom executor history).2) ∧
    ((plan, .ok rows) ∈ seen executor history (querySessions settings owner params) →
      Reported SessionRow (fun row => Session.decode (.object row)) id rows
        ((querySessions settings owner params).run.runFrom executor history).2) ∧
    ((plan, .ok rows) ∈ seen executor history (queryGroups settings owner params) →
      ∃ query keys, Query.read params.text = .ok query ∧ query.groupBy = some keys ∧
        (∀ row, (∃ group, GroupRow keys row group) ↔ (∃ status, TellsStatus row status) ∧
          ∃ count, TellsNumber row "testcase_count" count) ∧
        Reported (GroupRow keys) (Group.decode (Plan.groupColumnsOf keys)) (groupTotal rows) rows
          ((queryGroups settings owner params).run.runFrom executor history).2) := by
  refine ⟨?_, ?_, ?_⟩
  · rw [queryTestcases_eq_listCall]
    intro given
    rcases answered_listCall given with ⟨query, -, -, outcome⟩
    rw [outcome]
    exact reported_decodeList (fun _ _ => testcase_decode_iff) rows
  · rw [querySessions_eq_listCall]
    intro given
    rcases answered_listCall given with ⟨query, -, -, outcome⟩
    rw [outcome]
    exact reported_decodeList (fun _ _ => session_decode_iff) rows
  · by_cases noText : params.text = ""
    · rw [queryGroups, if_pos noText]
      intro given
      exact absurd given List.not_mem_nil
    · rw [queryGroups_eq_listCall noText]
      intro given
      rcases answered_listCall given with ⟨query, prepared, planned, outcome⟩
      rcases keys_of_prepare noText prepared with ⟨own, keys, read, grouped, isKeys⟩
      refine ⟨own, keys, read, grouped, fun row => exists_groupRow_iff, ?_⟩
      rw [outcome, columns_of_planned planned, isKeys]
      exact reported_decodeGroups keys rows

/-- A testcase with the given number as its status, on a page of two. -/
def rankedRow (rank : Int) : Cells :=
  [("created_at", .string "2025-01-01 00:00:00"),
    ("id", .string "00000000-0000-0000-0000-000000000000"), ("name", .string "it works"),
    ("session_id", .string "00000000-0000-0000-0000-000000000000"), ("status", .int rank),
    ("total_count", .int 2)]

/-- A group whose first key has no value and whose second has no column. -/
def unlabelledRow : Cells :=
  [("aggregated_status", .int 1), ("group_0", .null), ("testcase_count", .int 7),
    ("total_count", .int 0)]

/-- The second of two testcases has a status that there is not, so the first is not given
either.  The one group is given, and counted. -/
theorem every_row_reported_strange :
    ((queryTestcases {} .nil {}).run.runFrom (fun _ _ => .ok [rankedRow 2, rankedRow 4]) []).2 =
      .error (.decode (.unknownRank 4)) ∧
    ∃ group, ((queryGroups {} .nil ⟨"group_by(#\"os\", session_id)", 0, 0⟩).run.runFrom
        (fun _ _ => .ok [unlabelledRow]) []).2 = .ok ⟨[group], 1⟩ ∧
      GroupRow [.tag "os", .session] unlabelledRow group := by
  have read : Query.read "group_by(#\"os\", session_id)" =
      .ok { groupBy := some [.tag "os", .session] } := by
    decide +kernel
  constructor
  · have prepared : Params.prepare {} .testcases = .ok {} := rfl
    have planned : Plan.ofQuery {} .nil {} .testcases = .ok _ := rfl
    have asked := seen_listCall (fun _ => decodeList fun row => Testcase.decode (.object row))
      prepared planned (fun _ _ => .ok [rankedRow 2, rankedRow 4]) []
    have reported := (every_row_reported {} .nil {} _ [] _ _).1 (asked ▸ List.mem_singleton_self _)
    have told : TellsCount [rankedRow 2, rankedRow 4] 2 :=
      .first ⟨_, rfl, rfl, by decide, by decide⟩
    have first : ∃ testcase, TestcaseRow (rankedRow 2) testcase :=
      ⟨_, testcase_decode_iff.mp rfl⟩
    have second : ∀ testcase, ¬ TestcaseRow (rankedRow 4) testcase := by
      intro testcase shows
      rcases shows.status.shown with ⟨cell, found, isRank⟩
      cases found
      cases status : testcase.status <;> rw [status] at isRank <;> cases isRank
    rcases reported.misshapen 2 [rankedRow 2] (rankedRow 4) [] told rfl
      (List.forall_mem_singleton.mpr first) second with ⟨fault, decoded, failure⟩
    cases decoded
    exact failure
  · have accepted : Accepted .groups "group_by(#\"os\", session_id)"
        { groupBy := some [.tag "os", .session] } := .text read rfl
    have prepared := @Accepted.prepare .groups ⟨"group_by(#\"os\", session_id)", 0, 0⟩ _ accepted
    have planned : Plan.ofQuery {} .nil { groupBy := some [.tag "os", .session] } .groups = .ok _ :=
      rfl
    have asked := seen_listCall (fun plan => decodeGroups plan.groupColumns) prepared planned
      (fun _ _ => .ok [unlabelledRow]) []
    rw [← queryGroups_eq_listCall (by decide)] at asked
    rcases (every_row_reported {} .nil ⟨"group_by(#\"os\", session_id)", 0, 0⟩ _ [] _ _).2.2
      (asked ▸ List.mem_singleton_self _) with ⟨query, keys, isQuery, grouped, -, reported⟩
    cases isQuery.symm.trans read
    cases grouped
    have told : TellsCount [unlabelledRow] 0 := .first ⟨_, rfl, rfl, by decide, by decide⟩
    have shown : ∃ group, GroupRow [.tag "os", .session] unlabelledRow group :=
      exists_groupRow_iff.mpr ⟨⟨.fail, _, rfl, rfl⟩, 7, _, rfl, rfl, by decide, by decide⟩
    rcases reported.succeeds.mpr ⟨⟨0, told⟩, List.forall_mem_singleton.mpr shown⟩ with
      ⟨⟨groups, total⟩, success⟩
    rcases reported.totalCount _ success with ⟨count, isCount, rfl⟩
    rcases isCount with _ | ⟨cell, found, rfl, -⟩
    cases found
    cases reported.records _ success with
    | cons isGroup none =>
        cases none
        exact ⟨_, success, isGroup⟩

end Service
end TestQuery
