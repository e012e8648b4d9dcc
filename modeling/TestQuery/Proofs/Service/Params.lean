import TestQuery.Proofs.Plan.Acceptance
import TestQuery.Proofs.Query.Expressible
import TestQuery.Service.Params

namespace TestQuery
namespace Service

open Query (Purpose)

/-!
# What the parameters of a call ask for

The text of a call is read and checked for its purpose, and then the page of the parameters is put
in place of its own.  A list without a text asks for everything, as if the empty text were read; an
enumeration of groups is never prepared without a text.  What is asked for in the end can be
planned, unless the caller is at fault.
-/

/-! ## Texts that are accepted -/

/-- The text is a query for the purpose.  A list may go without a text. -/
inductive Accepted (purpose : Purpose) : String → Query → Prop where
  | everything (isList : purpose ≠ .groups) : Accepted purpose "" {}
  | text {text : String} {query : Query} (read : Query.read text = .ok query)
      (suits : query.check purpose = .ok ()) : Accepted purpose text query

theorem read_empty : Query.read "" = .ok {} := by
  decide +kernel

theorem Accepted.read {purpose : Purpose} {text : String} {query : Query}
    (accepted : Accepted purpose text query) :
    Query.read text = .ok query ∧ query.check purpose = .ok () := by
  cases accepted with
  | text read suits => exact ⟨read, suits⟩
  | everything isList =>
      refine ⟨read_empty, ?_⟩
      cases purpose with
      | groups => exact absurd rfl isList
      | testcases => rfl
      | sessions => rfl

theorem Accepted.asked {purpose : Purpose} {text : String} {query : Query}
    (accepted : Accepted purpose text query) : purpose = .groups → text ≠ "" := by
  intro isGroups noText
  subst isGroups noText
  rcases accepted.read with ⟨read, suits⟩
  cases read_empty.symm.trans read
  cases suits

/-! ## Queries that are prepared -/

/-- How the query of a call is prepared: with the page of the parameters, if the text is accepted;
otherwise the text is no query, or its query is none for the purpose. -/
inductive Prepared (params : Params) (purpose : Purpose) : Except Query.Error Query → Prop where
  | accepted {query : Query} (accepted : Accepted purpose params.text query) :
      Prepared params purpose (.ok (params.override query))
  | malformed {error : Query.SyntaxError} (given : params.text ≠ "")
      (refused : Query.read params.text = .error error) :
      Prepared params purpose (.error (.malformed error))
  | unsuitable {query : Query} {fault : Query.PurposeFault} (given : params.text ≠ "")
      (read : Query.read params.text = .ok query) (refused : query.check purpose = .error fault) :
      Prepared params purpose (.error (.unsuitable fault))

theorem prepared_prepare {params : Params} {purpose : Purpose}
    (asked : purpose = .groups → params.text ≠ "") :
    Prepared params purpose (params.prepare purpose) := by
  unfold Params.prepare Params.query
  by_cases noText : params.text = ""
  · rw [if_pos noText]
    apply Prepared.accepted
    rw [noText]
    exact .everything fun isGroups => asked isGroups noText
  · rw [if_neg noText]
    cases read : Query.read params.text with
    | error error => exact .malformed noText read
    | ok query =>
        cases suits : query.check purpose with
        | error fault =>
            simp only [Except.mapError, bind, Except.bind, suits]
            exact .unsuitable noText read suits
        | ok _ =>
            simp only [Except.mapError, bind, Except.bind, suits]
            exact .accepted (.text read suits)

theorem Accepted.prepare {purpose : Purpose} {params : Params} {query : Query}
    (accepted : Accepted purpose params.text query) :
    params.prepare purpose = .ok (params.override query) := by
  rcases accepted.read with ⟨read, suits⟩
  have prepared := prepared_prepare accepted.asked
  generalize params.prepare purpose = outcome at prepared
  cases prepared with
  | accepted other =>
      cases other.read.1.symm.trans read
      rfl
  | malformed given refused => cases refused.symm.trans read
  | unsuitable given readAgain refused =>
      cases readAgain.symm.trans read
      cases refused.symm.trans suits

theorem given_of_malformed {text : String} {error : Query.SyntaxError}
    (refused : Query.read text = .error error) : text ≠ "" := by
  intro noText
  rw [noText, read_empty] at refused
  cases refused

theorem prepare_of_malformed {params : Params} {error : Query.SyntaxError} (purpose : Purpose)
    (refused : Query.read params.text = .error error) :
    params.prepare purpose = .error (.malformed error) := by
  have prepared : Prepared params purpose (params.prepare purpose) :=
    prepared_prepare fun _ => given_of_malformed refused
  generalize params.prepare purpose = outcome at prepared
  cases prepared with
  | accepted accepted => cases refused.symm.trans accepted.read.1
  | malformed given refusedAgain =>
      cases refused.symm.trans refusedAgain
      rfl
  | unsuitable given read unsuited => cases refused.symm.trans read

/-! ## Prepared queries can be planned -/

theorem regular_of_wellFormed {query : Query} (wellFormed : Query.WellFormed query) :
    Plan.Regular query where
  leads := by
    intro link isFirst
    rcases wellFormed.chain with nothing | chain
    · rw [nothing] at isFirst
      cases isFirst
      rfl
    · rcases chain.first with ⟨first, isAlsoFirst, joinsNothing⟩
      rw [Option.mem_unique isFirst isAlsoFirst]
      exact joinsNothing
  keyed := fun empty => (wellFormed.groupBy [] empty).1 rfl
  offset := wellFormed.offset.1
  limit := wellFormed.limit.1

theorem regular_override {query : Query} (regular : Plan.Regular query) (params : Params) :
    Plan.Regular (params.override query) where
  leads := regular.leads
  keyed := regular.keyed
  offset := by
    have own := regular.offset
    unfold Params.override
    dsimp only
    split <;> omega
  limit := by
    have own := regular.limit
    unfold Params.override
    dsimp only
    split <;> omega

theorem check_override (params : Params) (query : Query) (purpose : Purpose) :
    (params.override query).check purpose = query.check purpose := by
  cases purpose <;> rfl

/-- A query that is prepared is planned, or refused for a fault of the caller. -/
theorem Accepted.ofQuery_eq {purpose : Purpose} {params : Params} {query : Query}
    (accepted : Accepted purpose params.text query) (settings : Settings) (owner : Uuid) :
    match Plan.refusal? (params.override query) with
    | some fault =>
      Plan.ofQuery settings owner (params.override query) purpose = .error (.unplannable fault)
    | none => ∃ plan, Plan.ofQuery settings owner (params.override query) purpose = .ok plan := by
  rcases accepted.read with ⟨read, suits⟩
  have regular := regular_override (regular_of_wellFormed (Query.wellFormed_of_read read)) params
  exact regular.ofQuery_eq ((check_override params query purpose).trans suits) settings owner

end Service
end TestQuery
