import TestQuery.Proofs.Plan.Planned
import TestQuery.Proofs.Sql.Relational

namespace TestQuery
namespace Plan

open Sql
open Query (Purpose)

/-!
# The tests of a plan

Every test that a plan makes of a row is of one of a few kinds, and its kind decides which
column it looks at.  What is said of all tests of a plan is said here by kind.
-/

/-! ## Kinds of tests -/

def ownerTest (table : Table) (owner : Uuid) : Test :=
  .compare (table.col .userId) .equal (.id owner)

/-- The tests that a query is planned with. -/
inductive Made (owner : Uuid) (purpose : Purpose) : Test → Prop where
  | owner : Made owner purpose (ownerTest (scopeTable purpose) owner)
  | date (comparison : Comparison) (moment : Timestamp) :
      Made owner purpose
        (.compare ((scopeTable purpose).col .createdAt) comparison (.moment moment))
  | predicate (predicate : Predicate) : Made owner purpose (testOf (sessionKey purpose) predicate)
  | session (id : Uuid) : Made owner purpose (.compare (sessionKey purpose) .equal (.id id))
  | tag (number : Nat) (tag value : String) : Made owner purpose (tagTest purpose number tag value)

variable {owner : Uuid} {purpose : Purpose}

theorem mem_tests_joinTests {start : Condition} {tests : List (Connective × Test)} {test : Test}
    (member : test ∈ (joinTests start tests).tests) :
    test ∈ start.tests ∨ test ∈ tests.map Prod.snd := by
  induction tests generalizing start with
  | nil => exact .inl member
  | cons joined tests inductionHypothesis =>
      rcases inductionHypothesis member with before | after
      · rcases List.mem_append.mp before with atStart | here
        · exact .inl atStart
        · exact .inr (List.mem_cons.mpr (.inl (List.mem_singleton.mp here)))
      · exact .inr (List.mem_cons_of_mem _ after)

/-- The tests of a chain are its predicates. -/
theorem exists_predicate_of_chainOf {query : Query} {condition : Condition}
    (member : condition ∈ chainOf purpose query) :
    ∀ test ∈ condition.tests,
      ∃ link ∈ query.predicates, test = testOf (sessionKey purpose) link.2 := by
  have isChain : chainCondition (sessionKey purpose) query = some condition :=
    Option.mem_toList.mp member
  unfold chainCondition at isChain
  split at isChain
  · cases isChain
  · rename_i predicates
    cases isChain
    rw [predicates]
    intro test isTest
    rcases mem_tests_joinTests isTest with first | other
    · exact ⟨_, List.mem_cons_self, List.mem_singleton.mp first⟩
    · rcases List.mem_map.mp other with ⟨joined, isJoined, rfl⟩
      rcases List.mem_map.mp isJoined with ⟨link, isLink, rfl⟩
      exact ⟨link, List.mem_cons_of_mem _ isLink, rfl⟩

theorem made_of_chainOf {query : Query} {condition : Condition}
    (member : condition ∈ chainOf purpose query) :
    ∀ test ∈ condition.tests, Made owner purpose test := by
  intro test isTest
  rcases exists_predicate_of_chainOf member test isTest with ⟨link, -, rfl⟩
  exact .predicate link.2

theorem made_of_scope {query : Query} {condition : Condition}
    (member : condition ∈ scope owner (scopeTable purpose) query) :
    ∀ test ∈ condition.tests, Made owner purpose test := by
  simp only [scope, List.mem_append, List.mem_singleton, Option.mem_toList,
    Option.map_eq_some_iff] at member
  rcases member with (rfl | ⟨moment, -, rfl⟩) | ⟨moment, -, rfl⟩
  · exact List.forall_mem_singleton.mpr .owner
  · exact List.forall_mem_singleton.mpr (.date _ _)
  · exact List.forall_mem_singleton.mpr (.date _ _)

theorem made_of_pinned {number : Nat} {keys : List GroupKey} {values : List String}
    {pins : List Condition} (pinned : Pinned purpose number keys values pins)
    {condition : Condition} (member : condition ∈ pins) :
    ∀ test ∈ condition.tests, Made owner purpose test := by
  induction pinned with
  | nil => cases member
  | session named others inductionHypothesis =>
      rcases List.mem_cons.mp member with rfl | later
      · exact List.forall_mem_singleton.mpr (.session _)
      · exact inductionHypothesis later
  | tag others inductionHypothesis =>
      rcases List.mem_cons.mp member with rfl | later
      · exact List.forall_mem_singleton.mpr (.tag _ _ _)
      · exact inductionHypothesis later

theorem mem_conditionsOf {query : Query}
    {pins : List Condition} {condition : Condition} :
    condition ∈ conditionsOf owner query purpose pins ↔
      condition ∈ scope owner (scopeTable purpose) query ∨ condition ∈ chainOf purpose query ∨
        condition ∈ pins := by
  cases purpose <;> simp only [conditionsOf, List.mem_append] <;> tauto

theorem made_of_conditionsOf {query : Query} {pins : List Condition}
    (pinned : pinsOf query purpose = .ok pins) {condition : Condition}
    (member : condition ∈ conditionsOf owner query purpose pins) :
    ∀ test ∈ condition.tests, Made owner purpose test := by
  rcases mem_conditionsOf.mp member with ofScope | ofChain | ofPins
  · exact made_of_scope ofScope
  · exact made_of_chainOf ofChain
  · exact made_of_pinned (pinned_of_ok pinned) ofPins

/-! ## Which columns are looked at -/

/-- A list looks at the table that it lists and at testcases. -/
theorem Made.relation_of_testcases {test : Test} (made : Made owner .testcases test) :
    test.column.relation = .table .testcases := by
  cases made with
  | predicate predicate => cases predicate <;> rfl
  | _ => rfl

/-- Of all tests of a query, one is about the owner. -/
theorem Made.eq_ownerTest {test : Test} (made : Made owner purpose test)
    (aboutOwner : test.column.column = .userId) : test = ownerTest (scopeTable purpose) owner := by
  cases made with
  | owner => rfl
  | date comparison moment => cases aboutOwner
  | predicate predicate =>
      cases predicate with
      | text field comparison value => cases field <;> cases aboutOwner
      | testcase => cases aboutOwner
      | status => cases aboutOwner
      | session => cases purpose <;> cases aboutOwner
      | tagged => cases purpose <;> cases aboutOwner
      | taggedWith => cases purpose <;> cases aboutOwner
  | session id => cases purpose <;> cases aboutOwner
  | tag number tag value => cases purpose <;> cases aboutOwner

end Plan
end TestQuery
