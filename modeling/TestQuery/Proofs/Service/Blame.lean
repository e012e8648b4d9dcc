import TestQuery.Proofs.Service.Calls

namespace TestQuery
namespace Service

open Record
open Exchange (StopsAtWrong answered)
open Json (Cells)
open Query (Purpose)

/-!
# Whose fault a failed call is

A call that fails internally was answered wrongly: a plan could not be run, or a row
that the call reads is not what it should be.  Nothing that a caller can ask for has
this effect, because every query that is read and checked is planned, or refused for a
fault of the caller.

Each call is a run of plans, and after a wrong answer no plan is sent any more.
-/

/-! ## Wrong answers -/

/-- A page does not say how many records match, or a row of it is no record. -/
def PageMisshapen {α : Type} (shows : Cells → α → Prop) (rows : List Cells) : Prop :=
  (∀ count, ¬ TellsCount rows count) ∨ ∃ row ∈ rows, ∀ record, ¬ shows row record

/-- A row that is read of the rows of a plan is not what it should be. -/
def Misshapen (plan : Plan) (rows : List Cells) : Prop :=
  match plan.kind with
  | .testcases => PageMisshapen TestcaseRow rows
  | .sessions => PageMisshapen SessionRow rows
  | .groups => PageMisshapen (GroupRow (plan.groupColumns.map (·.key))) rows
  | .testcaseDetail => ∃ row ∈ rows.head?, ∀ detail, ¬ TestcaseDetailRow row detail
  | .sessionDetail => ∃ row ∈ rows.head?, ∀ detail, ¬ SessionDetailRow row detail
  | .labels => ∃ row ∈ rows, ∀ label, ¬ LabelRow row label

/-- The plan could not be run, or a row that is read is not what it should be. -/
def Wrong (plan : Plan) : Response → Prop
  | .error _ => True
  | .ok rows => Misshapen plan rows

/-- The call failed, and not for a fault of its caller. -/
def FailedInternally {α : Type} (outcome : Except Error α) : Prop :=
  ∃ error, outcome = .error error ∧ error.isInternal = true

/-- Whatever the executor answers, the call fails internally if and only if it was
answered wrongly. -/
def Accountable {α : Type} (call : Call α) : Prop :=
  ∀ (respond : Executor) (history : List Plan),
    FailedInternally (call.run.runFrom respond history).2 ↔
      ∃ given ∈ answered respond history (call.run.runFrom respond history).1,
        Wrong given.1 given.2

/-! ## Rows that cannot be decoded -/

theorem fails_decodeList_iff {α : Type} {shows : Cells → α → Prop}
    {decode : Cells → Except Json.Fault α}
    (decodes : ∀ row record, decode row = .ok record ↔ shows row record) {rows : List Cells} :
    Fails (decodeList decode rows) ↔ PageMisshapen shows rows := by
  have decoded := not_congr (exists_decodeList_iff decodes rows)
  rw [not_exists, not_and_or, not_exists] at decoded
  rw [fails_iff]
  refine decoded.trans (or_congr_right ?_)
  simp only [not_forall, not_exists, exists_prop]

theorem fails_decodeGroups_iff {keys : List GroupKey} {rows : List Cells} :
    Fails (decodeGroups (Plan.groupColumnsOf keys) rows) ↔ PageMisshapen (GroupRow keys) rows := by
  rw [← fails_decodeList_iff fun _ _ => group_decode_iff, decodeGroups, fails_bind_iff]
  simp only [not_fails_pure, and_false, exists_false, or_false]

theorem keys_groupColumnsOf (keys : List GroupKey) :
    (Plan.groupColumnsOf keys).map (·.key) = keys := by
  apply List.ext_getElem?
  intro position
  rw [Plan.groupColumnsOf, List.getElem?_map, List.getElem?_mapIdx, Option.map_map]
  exact Option.map_id'

/-! ## Calls that stop at a wrong answer -/

/-- A wrong answer ends the call, with an internal failure. -/
def Stops {α : Type} (call : Call α) : Prop :=
  StopsAtWrong Wrong FailedInternally call.run

theorem Stops.accountable {α : Type} {call : Call α} (stops : Stops call) : Accountable call :=
  fun respond history => stops.bad_iff respond history

theorem stops_pure {α : Type} (result : α) : Stops (pure result : Call α) :=
  .done fun ⟨_, impossible, _⟩ => nomatch impossible

theorem stops_throw {α : Type} {error : Error} (external : error.isInternal = false) :
    Stops (throw error : Call α) := by
  refine .done ?_
  intro failed
  rcases failed with ⟨_, same, internal⟩
  cases same
  rw [external] at internal
  cases internal

/-- A plan is sent.  The call has to fail at rows that are wrong, and only there. -/
theorem stops_fetch {α : Type} {plan : Plan} {next : List Cells → Call α}
    (atWrong : ∀ rows, Misshapen plan rows → ∃ fault, next rows = throw (.decode fault))
    (otherwise : ∀ rows, ¬ Misshapen plan rows → Stops (next rows)) :
    Stops (fetch plan >>= next) := by
  refine .send ?_ ?_
  · intro response isWrong
    cases response with
    | error reason => exact ⟨.error (.execution reason), rfl, _, rfl, rfl⟩
    | ok rows =>
        rcases atWrong rows isWrong with ⟨fault, failed⟩
        exact ⟨.error (.decode fault), failed, _, rfl, rfl⟩
  · intro response isRight
    cases response with
    | error reason => exact absurd trivial isRight
    | ok rows => exact otherwise rows isRight

/-- Rows that are decoded at once, where decoding fails at wrong rows only. -/
theorem stops_fetch_ofRows {α β : Type} {plan : Plan}
    {decode : List Cells → Except Json.Fault α} {next : α → Call β}
    (fails : ∀ rows, Fails (decode rows) ↔ Misshapen plan rows)
    (otherwise : ∀ result, Stops (next result)) :
    Stops (fetch plan >>= fun rows => ofRows (decode rows) >>= next) := by
  apply stops_fetch
  · intro rows misshapen
    rcases (fails rows).mpr misshapen with ⟨fault, failed⟩
    exact ⟨fault, by rw [failed]; rfl⟩
  · intro rows wellShaped
    cases decoded : decode rows with
    | error fault => exact absurd ((fails rows).mp ⟨fault, decoded⟩) wellShaped
    | ok result => exact otherwise result

theorem stops_fetch_decode {α : Type} {plan : Plan}
    {decode : List Cells → Except Json.Fault α}
    (fails : ∀ rows, Fails (decode rows) ↔ Misshapen plan rows) :
    Stops (fetch plan >>= fun rows => ofRows (decode rows)) := by
  have stops := stops_fetch_ofRows fails stops_pure
  simpa only [bind_pure] using stops

/-! ## The calls -/

/-- A list is refused for a fault of its caller, or it stops at a page that is misshapen. -/
theorem stops_listCall {α : Type} {settings : Settings} {owner : Uuid} {params : Params}
    {purpose : Purpose} {decode : Plan → List Cells → Except Json.Fault α}
    (asked : purpose = .groups → params.text ≠ "")
    (fails : ∀ query plan, Plan.ofQuery settings owner query purpose = .ok plan →
      ∀ rows, Fails (decode plan rows) ↔ Misshapen plan rows) :
    Stops (listCall settings owner params purpose decode) := by
  have spec := prepared_prepare asked
  generalize prepared : params.prepare purpose = outcome at spec
  cases spec with
  | malformed given refused =>
      rw [listCall_of_unprepared decode prepared]
      exact stops_throw rfl
  | unsuitable given read refused =>
      rw [listCall_of_unprepared decode prepared]
      exact stops_throw rfl
  | accepted accepted =>
      have outcome := accepted.ofQuery_eq settings owner
      split at outcome
      · rw [listCall_of_unplanned decode prepared outcome]
        exact stops_throw rfl
      · rcases outcome with ⟨plan, planned⟩
        rw [listCall_of_planned decode prepared planned]
        exact stops_fetch_decode (fails _ plan planned)

theorem stops_queryTestcases (settings : Settings) (owner : Uuid) (params : Params) :
    Stops (queryTestcases settings owner params) := by
  rw [queryTestcases_eq_listCall]
  refine stops_listCall nofun ?_
  intro query plan planned rows
  rw [fails_decodeList_iff fun _ _ => testcase_decode_iff, Misshapen, kind_of_planned planned]
  rfl

theorem stops_querySessions (settings : Settings) (owner : Uuid) (params : Params) :
    Stops (querySessions settings owner params) := by
  rw [querySessions_eq_listCall]
  refine stops_listCall nofun ?_
  intro query plan planned rows
  rw [fails_decodeList_iff fun _ _ => session_decode_iff, Misshapen, kind_of_planned planned]
  rfl

theorem stops_queryGroups (settings : Settings) (owner : Uuid) (params : Params) :
    Stops (queryGroups settings owner params) := by
  by_cases noText : params.text = ""
  · rw [queryGroups, if_pos noText]
    exact stops_throw rfl
  · rw [queryGroups_eq_listCall noText]
    apply stops_listCall fun _ => noText
    intro query plan planned rows
    rw [Misshapen, kind_of_planned planned, columns_of_planned planned, fails_decodeGroups_iff,
      keys_groupColumnsOf]
    rfl

/-- A lookup stops at a first row that is no record, and at a row that is no label. -/
theorem stops_lookupCall {α β : Type} {settings : Settings} {owner : Uuid} {lookup : Plan}
    {record : RecordName} {shows : Cells → α → Prop} {decode : Cells → Except Json.Fault α}
    (decodes : ∀ row detail, decode row = .ok detail ↔ shows row detail)
    (misshapen : ∀ rows, Misshapen lookup rows ↔ ∃ row ∈ rows.head?, ∀ detail, ¬ shows row detail)
    (sessionOf : α → Uuid) (complete : α → List (String × String) → β) :
    Stops (lookupCall settings owner lookup record decode sessionOf complete) := by
  have labels (detail : α) : Stops (fetchLabels settings owner (sessionOf detail) >>= fun labels =>
      pure (complete detail labels)) := by
    unfold fetchLabels
    simp only [bind_assoc, pure_bind]
    apply stops_fetch_ofRows
    · intro rows
      rw [fails_mapM_iff]
      simp only [fails_iff, ne_eq, label_decode_iff]
      rfl
    · intro labels
      exact stops_pure _
  unfold lookupCall fetchOne
  rw [bind_assoc]
  apply stops_fetch
  · intro rows isMisshapen
    rcases (misshapen rows).mp isMisshapen with ⟨row, isFirst, unshown⟩
    cases rows with
    | nil => cases isFirst
    | cons first others =>
        cases isFirst
        cases decoded : decode row with
        | ok detail => exact absurd ((decodes row detail).mp decoded) (unshown detail)
        | error fault =>
            refine ⟨fault, ?_⟩
            simp only [pure_bind, decoded]
            rfl
  · intro rows wellShaped
    rw [misshapen] at wellShaped
    cases rows with
    | nil => exact stops_throw rfl
    | cons row others =>
        simp only [pure_bind]
        cases decoded : decode row with
        | ok detail => exact labels detail
        | error fault =>
            refine absurd ⟨row, rfl, ?_⟩ wellShaped
            intro detail shown
            cases ((decodes row detail).mpr shown).symm.trans decoded

theorem stops_getTestcase (settings : Settings) (owner id : Uuid) :
    Stops (getTestcase settings owner id) := by
  rw [getTestcase_eq_lookupCall]
  exact stops_lookupCall (fun _ _ => testcaseDetail_decode_iff) (fun _ => Iff.rfl) _ _

theorem stops_getSession (settings : Settings) (owner id : Uuid) :
    Stops (getSession settings owner id) := by
  rw [getSession_eq_lookupCall]
  exact stops_lookupCall (fun _ _ => sessionDetail_decode_iff) (fun _ => Iff.rfl) _ _

/-- A query that was read and suits its purpose is planned, or refused for a page that is
too large or a selected value that names no session; and every call fails internally if
and only if it was answered wrongly. -/
theorem caller_never_causes_internal (settings : Settings) (owner : Uuid) :
    (∀ (text : String) (query : Query) (purpose : Purpose), Query.read text = .ok query →
        query.check purpose = .ok () →
        (match Plan.refusal? query with
          | some fault => Plan.ofQuery settings owner query purpose = .error (.unplannable fault)
          | none => ∃ plan, Plan.ofQuery settings owner query purpose = .ok plan) ∧
        (Plan.refusal? query).map Query.PlanFault.message =
          if 100 < query.limit then some "limit cannot exceed 100"
          else (Plan.misnamedOf? query).map ("invalid selector value: " ++ ·)) ∧
      (∀ params, Accountable (queryTestcases settings owner params) ∧
        Accountable (querySessions settings owner params) ∧
        Accountable (queryGroups settings owner params)) ∧
      ∀ id, Accountable (getTestcase settings owner id) ∧
        Accountable (getSession settings owner id) := by
  refine ⟨?_, ?_, ?_⟩
  · intro text query purpose success suits
    have regular := regular_of_wellFormed (Query.wellFormed_of_read success)
    exact ⟨regular.ofQuery_eq suits settings owner, Plan.refusal?_message query⟩
  · intro params
    exact ⟨(stops_queryTestcases settings owner params).accountable,
      (stops_querySessions settings owner params).accountable,
      (stops_queryGroups settings owner params).accountable⟩
  · intro id
    exact ⟨(stops_getTestcase settings owner id).accountable,
      (stops_getSession settings owner id).accountable⟩

/-- A selector whose second value is to name a session and does not. -/
def misnamedText : String :=
  "group_by(#\"os\", session_id) group = (\"linux\", \"nobody\") limit = 100"

def misnamedQuery : Query where
  groupBy := some [.tag "os", .session]
  selector := some ["linux", "nobody"]
  limit := 100

/-- The misnamed session is the fault of the caller, and an executor that is down is
not. -/
theorem caller_never_causes_internal_misnamed :
    Query.read misnamedText = .ok misnamedQuery ∧ misnamedQuery.check .testcases = .ok () ∧
      Plan.ofQuery {} .nil misnamedQuery .testcases =
        .error (.unplannable (.invalidSelector "nobody")) ∧
      FailedInternally
        ((queryTestcases {} .nil {}).run.runFrom (fun _ _ => .error "down") []).2 := by
  have success : Query.read misnamedText = .ok misnamedQuery := by decide +kernel
  have suits : misnamedQuery.check .testcases = .ok () := by decide
  rcases caller_never_causes_internal {} .nil with ⟨outcome, lists, -⟩
  refine ⟨success, suits, (outcome _ _ _ success suits).1, ?_⟩
  exact ((lists {}).1 _ _).mpr ⟨_, List.mem_cons_self, trivial⟩

end Service
end TestQuery
