import TestQuery.Proofs.Plan.Text
import TestQuery.Proofs.Query.Assignment
import TestQuery.Proofs.Service.Traffic

namespace TestQuery
namespace Service

open Query (Purpose NumberOf LaidOut LargeNumeral TokenKind)
open Text
open Sql

/-!
# The page of a list

The page of a list is told by its text and by the parameters of the call, which go first
where they make sense.  Whatever the numbers are, what is asked for in the end has neither a
negative start nor a negative size; a size that is too large refuses the call, and all others
arrive in the statement unchanged.  A number that cannot be held never gets so far, for the
text that has it is no query.
-/

/-! ## What is asked for -/

/-- The start of the page, where the text says `own`. -/
def startAsked (params : Params) (own : Int) : Int :=
  if 0 < params.offset then params.offset else own

/-- The size that is asked for, where the text says `own`. -/
def sizeAsked (params : Params) (own : Int) : Int :=
  if 1 ≤ params.limit ∧ params.limit ≤ 100 then params.limit else own

/-! ## How a list goes -/

section

variable {settings : Settings} {owner : Uuid} {purpose : Purpose} {params : Params}

/-- Whoever would run the plans of the call, it sends none and fails. -/
def Refused {α : Type} (call : Call α) (error : Error) : Prop :=
  ∀ executor history, call.run.runFrom executor history = ([], .error error)

theorem refused_of_listCall (asked : purpose = .groups → params.text ≠ "") {error : Error}
    (failure : ∀ {α : Type} (decode : Plan → List Json.Cells → Except Json.Fault α),
      listCall settings owner params purpose decode = throw error) :
    Refused ((Demand.list purpose params).call settings owner) error := by
  rcases call_eq_listCall settings owner asked with ⟨decode, same⟩
  intro executor history
  rw [same, failure]
  rfl

/-- A list that has a plan sends it, and no fault of the query is found any more. -/
theorem run_of_planned (asked : purpose = .groups → params.text ≠ "") {query : Query} {plan : Plan}
    (prepared : params.prepare purpose = .ok query)
    (planned : Plan.ofQuery settings owner query purpose = .ok plan) (executor : Executor)
    (history : List Plan) :
    (((Demand.list purpose params).call settings owner).run.runFrom executor history).1 = [plan] ∧
      ∀ error, (((Demand.list purpose params).call settings owner).run.runFrom
        executor history).2 ≠ .error (.query error) := by
  rcases call_eq_listCall settings owner asked with ⟨decode, same⟩
  rw [same, run_listCall decode prepared planned]
  refine ⟨rfl, ?_⟩
  intro error failed
  cases answer : executor history plan with
  | error reason =>
      rw [answer] at failed
      cases failed
  | ok rows =>
      rw [answer] at failed
      dsimp only at failed
      cases decoded : decode plan rows <;> rw [decoded] at failed <;> cases failed

end

/-! ## The page in the plan -/

/-- The plan has the page that begins at `start` and is of the given size, or of the usual
one where the size is zero.  Its text says so at its end, and nowhere else. -/
structure HasPage (plan : Plan) (start size : Int) (page : Plan.Page) : Prop where
  given : plan.page = some page
  offset : (page.offset : Int) = start
  limit : (page.limit : Int) = if size = 0 then 100 else size
  bounds : 1 ≤ page.limit ∧ page.limit ≤ 100
  window : ∃ front, plan.filled? = some (front ++
      [.word "LIMIT", .value (.bigUnsigned (some page.limit))] ++
      if 0 < start then [.word "OFFSET", .value (.bigUnsigned (some page.offset))] else []) ∧
    ∀ lexeme ∈ front, lexeme ≠ .word "LIMIT" ∧ lexeme ≠ .word "OFFSET"

theorem hasPage_of_ok {settings : Settings} {owner : Uuid} {query : Query} {purpose : Purpose}
    {plan : Plan} (success : Plan.ofQuery settings owner query purpose = .ok plan) :
    ∃ page, HasPage plan query.offset query.limit page := by
  rcases Plan.assembled_of_ok success with ⟨page, pins, paged, -, -, rfl⟩
  rcases Plan.inBounds_of_pageOf paged with ⟨nonnegative, bounds⟩
  rcases Plan.pageOf_eq_ok paged with ⟨offset, limit⟩
  rw [Plan.limitOf] at limit
  let rows := Plan.rowsOf query (Plan.conditionsOf owner query purpose pins) purpose
  have skipped : (Plan.windowOf query page purpose).offset =
      if page.offset = 0 then none else some page.offset := by
    cases purpose <;> rfl
  have noWindow : rows.limit = none ∧ rows.offset = none := by
    cases purpose <;> exact ⟨rfl, rfl⟩
  rcases window_of_paged settings.dialect settings.tables noWindow.1 noWindow.2
    (Plan.windowOf query page purpose) with ⟨front, text, quiet⟩
  rw [limit_windowOf, skipped] at text
  refine ⟨page, rfl, ?_, ?_, ?_, front, ?_, ?_⟩
  · omega
  · split at limit <;> omega
  · split at limit <;> omega
  · rw [Plan.filled?_eq]
    refine congrArg some (text.trans ?_)
    rw [List.append_assoc]
    by_cases positive : 0 < query.offset
    · have skips : page.offset ≠ 0 := by omega
      rw [if_pos positive, if_neg skips]
      rfl
    · have noSkip : page.offset = 0 := by omega
      rw [if_neg positive, if_pos noSkip]
      rfl
  · intro lexeme member
    have none := quiet lexeme member
    simpa [Lexeme.opensWindow] using none

/-! ## Numbers of the text and of the parameters -/

theorem override_offset (params : Params) (query : Query) :
    (params.override query).offset = startAsked params query.offset := rfl

theorem override_limit (params : Params) (query : Query) :
    (params.override query).limit = sizeAsked params query.limit := by
  have bound : (Query.greatestLimit : Int) = 100 := rfl
  rw [sizeAsked, Params.override, bound]
  exact if_congr (and_congr_left' Int.add_one_le_iff.symm) rfl rfl

/-- Each of the selected values that is to name a session does. -/
def SelectorNames (query : Query) : Prop :=
  ∀ keys ∈ query.groupBy, ∀ values ∈ query.selector, ∀ value,
    (GroupKey.session, value) ∈ keys.zip values → (Uuid.ofText? value.toList).isSome = true

/-- What becomes of a list whose text is accepted. -/
structure Pages (settings : Settings) (owner : Uuid) (purpose : Purpose) (params : Params)
    (query : Query) (start size : Int) : Prop where
  excessive : 100 < size →
    Refused ((Demand.list purpose params).call settings owner)
      (.query (.unplannable .excessiveLimit))
  misnamed : size ≤ 100 → ¬ SelectorNames query → ∃ value,
    Refused ((Demand.list purpose params).call settings owner)
      (.query (.unplannable (.invalidSelector value)))
  paged : size ≤ 100 → SelectorNames query → ∃ plan page, HasPage plan start size page ∧
    (params.offset < Nat.pow 2 63 → page.offset < Nat.pow 2 63) ∧
    ∀ executor history,
      (((Demand.list purpose params).call settings owner).run.runFrom executor history).1 = [plan]
  nonnegative : ∀ executor history fault,
    (((Demand.list purpose params).call settings owner).run.runFrom executor history).2 =
        .error (.query (.unplannable fault)) →
      fault ≠ .negativeOffset ∧ fault ≠ .negativeLimit

/-- Where the size is not too large the selector decides. -/
theorem refusal?_override {params : Params} {query : Query}
    (fits : sizeAsked params query.limit ≤ 100) :
    Plan.refusal? (params.override query) = (Plan.misnamedOf? query).map .invalidSelector := by
  rw [Plan.refusal?, override_limit, if_neg (Int.not_lt.mpr fits)]
  rfl

theorem pages_of_accepted (settings : Settings) (owner : Uuid) {purpose : Purpose} {params : Params}
    {query : Query} (accepted : Accepted purpose params.text query) :
    Pages settings owner purpose params query (startAsked params query.offset)
      (sizeAsked params query.limit) := by
  have wellFormed := Query.wellFormed_of_read accepted.read.1
  have outcome := accepted.ofQuery_eq settings owner
  have refused {fault : Query.PlanFault}
      (isFault : Plan.refusal? (params.override query) = some fault) :
      Refused ((Demand.list purpose params).call settings owner) (.query (.unplannable fault)) := by
    rw [isFault] at outcome
    exact refused_of_listCall accepted.asked fun decode =>
      listCall_of_unplanned decode accepted.prepare outcome
  have planned (noFault : Plan.refusal? (params.override query) = none) :
      ∃ plan, Plan.ofQuery settings owner (params.override query) purpose = .ok plan := by
    rw [noFault] at outcome
    exact outcome
  refine ⟨?_, ?_, ?_, ?_⟩
  · intro excessive
    apply refused
    rw [Plan.refusal?, override_limit, if_pos excessive]
  · intro fits unnamed
    cases misnamed : Plan.misnamedOf? query with
    | none => exact absurd (Plan.misnamedOf?_eq_none_iff.mp misnamed) unnamed
    | some value =>
        refine ⟨value, refused ?_⟩
        rw [refusal?_override fits, misnamed]
        rfl
  · intro fits named
    have noFault : Plan.refusal? (params.override query) = none := by
      rw [refusal?_override fits, Plan.misnamedOf?_eq_none_iff.mpr named]
      rfl
    rcases planned noFault with ⟨plan, success⟩
    rcases hasPage_of_ok success with ⟨page, hasPage⟩
    rw [override_offset, override_limit] at hasPage
    refine ⟨plan, page, hasPage, ?_, fun executor history =>
      (run_of_planned accepted.asked accepted.prepare success executor history).1⟩
    intro inRange
    have own : query.offset ≤ Query.maxNumber := wellFormed.offset.2
    have start := hasPage.offset
    have bound : Query.maxNumber < Nat.pow 2 63 := by decide
    rw [startAsked] at start
    split at start <;> omega
  · intro executor history fault failed
    cases isFault : Plan.refusal? (params.override query) with
    | none =>
        rcases planned isFault with ⟨plan, success⟩
        exact absurd failed
          ((run_of_planned accepted.asked accepted.prepare success executor history).2 _)
    | some found =>
        rw [refused isFault executor history] at failed
        cases failed
        rw [Plan.refusal?] at isFault
        split at isFault
        · cases isFault
          exact ⟨nofun, nofun⟩
        · rcases Option.map_eq_some_iff.mp isFault with ⟨value, -, rfl⟩
          exact ⟨nofun, nofun⟩

/-! ## Every list -/

/-- The page of a list, for all numbers in its text and its parameters.  A text that is
accepted has its numbers told by its tokens, and what the parameters make of them decides how
the call goes.  A number in a text that cannot be held refuses the text. -/
theorem page_of_list (settings : Settings) (owner : Uuid) (purpose : Purpose) (params : Params) :
    (∀ query, Accepted purpose params.text query → ∃ ownStart ownSize,
      (∀ value, NumberOf params.text .offset value ↔ value = ownStart) ∧
      (∀ value, NumberOf params.text .limit value ↔ value = ownSize) ∧
      Pages settings owner purpose params query (startAsked params ownStart)
        (sizeAsked params ownSize)) ∧
    (∀ kinds word front digits after, LargeNumeral digits after →
      params.text.toList = front ++ (digits ++ after) →
      LaidOut none (kinds ++ [.keyword word, .equal]) front →
      Refused ((Demand.list purpose params).call settings owner)
        (.query (.malformed (.located (.numberOutOfRange (String.ofList digits))
          ⟨byteLength front, byteLength front + byteLength digits⟩)))) ∧
    Query.Error.message (.unplannable .excessiveLimit) = "limit cannot exceed 100" := by
  refine ⟨?_, ?_, by decide⟩
  · intro query accepted
    have said := Query.saidBy_of_read accepted.read.1
    exact ⟨query.offset, query.limit, said.offset, said.limit,
      pages_of_accepted settings owner accepted⟩
  · intro kinds word front digits after numeral parts laidOut
    have failure := numeral.read parts laidOut
    exact refused_of_listCall (fun _ => given_of_malformed failure) fun decode =>
      listCall_of_unprepared decode (prepare_of_malformed purpose failure)

/-- The text asks for too much: it is refused, unless the call asks for less. -/
theorem page_of_list_overridden :
    (∃ plan page, HasPage plan 7 25 page ∧ ∀ executor history,
      (((Demand.list .sessions ⟨"offset = 007 limit = 500", -3, 25⟩).call {} .nil).run.runFrom
        executor history).1 = [plan]) ∧
    Refused ((Demand.list .sessions ⟨"offset = 007 limit = 500", 3, 101⟩).call {} .nil)
      (.query (.unplannable .excessiveLimit)) ∧
    Refused ((Demand.list .sessions ⟨"limit=09223372036854775808", 0, 25⟩).call {} .nil)
      (.query (.malformed (.located (.numberOutOfRange "09223372036854775808") ⟨6, 26⟩))) := by
  have read : Query.read "offset = 007 limit = 500" = .ok { offset := 7, limit := 500 } := by
    decide +kernel
  have said := Query.saidBy_of_read read
  have accepted : Accepted .sessions "offset = 007 limit = 500" { offset := 7, limit := 500 } :=
    .text read rfl
  have nothing : Query.Blank [] := List.forall_mem_nil _
  have limit : Query.TokenSpelling (.keyword .limit) ['l', 'i', 'm', 'i', 't'] :=
    .keyword .limit rfl
  have laidOut : LaidOut none [.keyword .limit, .equal] "limit=".toList := by
    refine .token nothing ?_ limit (.token nothing ?_ .equal (.done nothing))
    · rintro previous ⟨⟩
    · rintro previous ⟨⟩ together
      cases together
  have numeral : LargeNumeral "09223372036854775808".toList [] :=
    ⟨List.cons_ne_nil _ _, List.all_eq_true.mp rfl, by decide +kernel, nofun⟩
  refine ⟨?_, ?_, ?_⟩
  · rcases (page_of_list {} .nil .sessions ⟨"offset = 007 limit = 500", -3, 25⟩).1 _ accepted with
      ⟨ownStart, ownSize, isStart, isSize, pages⟩
    cases (isStart 7).mp ((said.offset 7).mpr rfl)
    cases (isSize 500).mp ((said.limit 500).mpr rfl)
    rcases pages.paged (by decide) nofun with ⟨plan, page, hasPage, -, sent⟩
    exact ⟨plan, page, hasPage, sent⟩
  · rcases (page_of_list {} .nil .sessions ⟨"offset = 007 limit = 500", 3, 101⟩).1 _ accepted with
      ⟨ownStart, ownSize, isStart, isSize, pages⟩
    cases (isSize 500).mp ((said.limit 500).mpr rfl)
    exact pages.excessive (by decide)
  · exact (page_of_list {} .nil .sessions ⟨"limit=09223372036854775808", 0, 25⟩).2.1
      [] .limit _ _ _ numeral rfl laidOut

end Service
end TestQuery
