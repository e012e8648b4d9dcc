import TestQuery.Proofs.Plan.Tests
import TestQuery.Proofs.Sql.Ownership

namespace TestQuery
namespace Plan

open Sql
open Sql.Database (Owned Coherent)
open Query (Purpose)

/-!
# Owners are kept apart

Every plan, of a query or of a lookup, starts at rows of its owner and goes on by their
sessions.  So what it gives depends on the rows of the owner only: no filter, whatever
its connectives and negations, shows or counts a row of someone else, or lets a row of
someone else decide whether one of the owner is shown.
-/

/-! ## Queries -/

theorem sessionKey_eq (purpose : Purpose) :
    sessionKey purpose = (scopeTable purpose).col (scopeTable purpose).sessionColumn := by
  cases purpose <;> rfl

theorem Made.looksAt {owner : Uuid} {purpose : Purpose} {test : Test}
    (made : Made owner purpose test) : test.LooksAt (sessionKey purpose) := by
  cases made with
  | predicate predicate =>
      cases predicate with
      | tagged => rfl
      | taggedWith => rfl
      | _ => trivial
  | tag number tag value =>
      cases purpose with
      | groups => trivial
      | testcases => rfl
      | sessions => rfl
  | _ => trivial

theorem labelJoin_follows (number : Nat) (tag : String) :
    (labelJoin number tag).Follows (Table.testcases.col .sessionId) where
  left := rfl
  right := rfl
  belongs := nofun
  apart := nofun
  tests := by
    intro test member
    cases List.mem_singleton.mp member
    trivial

theorem keyJoins_follow (number : Nat) (keys : List GroupKey) :
    ∀ join ∈ keyJoins number keys, join.Follows (Table.testcases.col .sessionId) := by
  induction keys generalizing number with
  | nil => exact List.forall_mem_nil _
  | cons key keys inductionHypothesis =>
      cases key with
      | session => exact inductionHypothesis number
      | tag tag =>
          exact List.forall_mem_cons.mpr
            ⟨labelJoin_follows number tag, inductionHypothesis (number + 1)⟩

theorem testcasesOfSession_follows : testcasesOfSession.Follows (Table.sessions.col .id) where
  left := rfl
  right := rfl
  belongs := nofun
  apart := nofun
  tests := List.forall_mem_nil _

/-- The rows of a query are selected within the owner. -/
theorem rowsOf_confined {owner : Uuid} {query : Query} {purpose : Purpose}
    {pins : List Condition} (pinned : pinsOf query purpose = .ok pins) :
    (rowsOf query (conditionsOf owner query purpose pins) purpose).Confined owner
      (scopeTable purpose) := by
  have owned : .test (.compare ((scopeTable purpose).col .userId) .equal (.id owner)) ∈
      conditionsOf owner query purpose pins := by
    refine mem_conditionsOf.mpr (.inl ?_)
    simp [scope]
  have conditions : ∀ condition ∈ conditionsOf owner query purpose pins,
      condition.LooksAt ((scopeTable purpose).col (scopeTable purpose).sessionColumn) := by
    rw [← sessionKey_eq]
    intro condition member
    exact condition.looksAt_iff.mpr fun test isTest =>
      (made_of_conditionsOf pinned member test isTest).looksAt
  cases purpose with
  | testcases => exact ⟨rfl, owned, conditions, List.forall_mem_nil _⟩
  | sessions =>
      refine ⟨rfl, owned, conditions, ?_⟩
      exact List.forall_mem_singleton.mpr testcasesOfSession_follows
  | groups => exact ⟨rfl, owned, conditions, keyJoins_follow 0 _⟩

/-! ## Lookups -/

theorem ownedRow_looksAt (table : Table) (column : Column) (id owner : Uuid) (key : ColumnRef) :
    ∀ condition ∈ ownedRow table column id owner, condition.LooksAt key := by
  intro condition member
  simp only [ownedRow, List.mem_cons, List.not_mem_nil, or_false] at member
  rcases member with rfl | rfl <;> trivial

theorem owner_mem_ownedRow (table : Table) (column : Column) (id owner : Uuid) :
    .test (.compare (table.col .userId) .equal (.id owner)) ∈ ownedRow table column id owner := by
  simp [ownedRow]

/-- The plans that are made for an owner. -/
inductive Issued (settings : Settings) (owner : Uuid) : Plan → Prop where
  | query {query : Query} {purpose : Purpose} {plan : Plan}
      (success : ofQuery settings owner query purpose = .ok plan) : Issued settings owner plan
  | testcase (id : Uuid) : Issued settings owner (testcaseLookup settings owner id)
  | session (id : Uuid) : Issued settings owner (sessionLookup settings owner id)
  | labels (session : Uuid) : Issued settings owner (labelLookup settings owner session)

theorem Issued.confined {settings : Settings} {owner : Uuid} {plan : Plan}
    (issued : Issued settings owner plan) : plan.statement.Confined owner := by
  cases issued with
  | @query query purpose _ success =>
      obtain ⟨page, pins, -, pinned, -, rfl⟩ := assembled_of_ok success
      refine ⟨⟨_, rowsOf_confined pinned⟩, ?_⟩
      cases purpose <;> exact ⟨rfl, rfl, rfl⟩
  | testcase id =>
      exact ⟨.testcases, rfl, owner_mem_ownedRow _ _ _ _, ownedRow_looksAt _ _ _ _ _,
        List.forall_mem_nil _⟩
  | session id =>
      refine ⟨.sessions, rfl, owner_mem_ownedRow _ _ _ _, ownedRow_looksAt _ _ _ _ _, ?_⟩
      exact List.forall_mem_singleton.mpr testcasesOfSession_follows
  | labels session =>
      exact ⟨.labels, rfl, owner_mem_ownedRow _ _ _ _, ownedRow_looksAt _ _ _ _ _,
        List.forall_mem_nil _⟩

/-! ## Owners in plans -/

/-- The rows are tested for the owner, and for no one else. -/
def TestsOwner (owner : Uuid) (plan : Plan) : Prop :=
  ∃ table, plan.statement.inner.source = .table table ∧
    .test (ownerTest table owner) ∈ plan.statement.inner.conditions ∧
    ∀ test ∈ plan.statement.inner.tests, test.column.column = .userId →
      test = ownerTest table owner

theorem mem_tests_keyJoins {number : Nat} {keys : List GroupKey} {test : Test}
    (member : test ∈ (keyJoins number keys).flatMap Join.tests) : test.column.column = .key := by
  induction keys generalizing number with
  | nil => cases member
  | cons key keys inductionHypothesis =>
      cases key with
      | session => exact inductionHypothesis member
      | tag tag =>
          rcases List.mem_append.mp (List.flatMap_cons ▸ member) with here | later
          · cases List.mem_singleton.mp here
            rfl
          · exact inductionHypothesis later

theorem joins_untested {purpose : Purpose} {query : Query} {conditions : List Condition}
    {test : Test}
    (member : test ∈ (rowsOf query conditions purpose).joins.flatMap Join.tests) :
    test.column.column = .key := by
  cases purpose with
  | testcases => cases member
  | sessions => cases member
  | groups => exact mem_tests_keyJoins member

theorem testsOwner_ownedRow {owner : Uuid} {plan : Plan} {table : Table} {column : Column}
    {id : Uuid}
    (source : plan.statement.inner.source = .table table)
    (joins : plan.statement.inner.joins.flatMap Join.tests = [])
    (conditions : plan.statement.inner.conditions = ownedRow table column id owner)
    (byId : column ≠ .userId) : plan.TestsOwner owner := by
  refine ⟨table, source, ?_, ?_⟩
  · rw [conditions]
    exact owner_mem_ownedRow table column id owner
  · intro test member aboutOwner
    rw [Select.tests, joins, conditions] at member
    have either : test = .compare (table.col column) .equal (.id id) ∨
        test = ownerTest table owner := by
      simpa [ownedRow, Condition.tests, ownerTest] using member
    rcases either with rfl | rfl
    · exact absurd aboutOwner byId
    · rfl

/-- The plans that are made for an owner test for that owner. -/
theorem Issued.testsOwner {settings : Settings} {owner : Uuid} {plan : Plan}
    (issued : Issued settings owner plan) : plan.TestsOwner owner := by
  cases issued with
  | @query query purpose _ success =>
      obtain ⟨page, pins, -, pinned, -, rfl⟩ := assembled_of_ok success
      have confined : (rowsOf query (conditionsOf owner query purpose pins) purpose).Confined owner
          (scopeTable purpose) := rowsOf_confined pinned
      refine ⟨scopeTable purpose, confined.source, confined.owned, ?_⟩
      intro test member aboutOwner
      rcases List.mem_append.mp member with ofJoins | ofConditions
      · rw [joins_untested ofJoins] at aboutOwner
        cases aboutOwner
      · obtain ⟨condition, isCondition, isTest⟩ := List.mem_flatMap.mp ofConditions
        change condition ∈ (rowsOf query _ purpose).conditions at isCondition
        rw [rowsOf_conditions] at isCondition
        exact (made_of_conditionsOf pinned isCondition test isTest).eq_ownerTest aboutOwner
  | testcase id => exact testsOwner_ownedRow rfl rfl rfl nofun
  | session id => exact testsOwner_ownedRow rfl rfl rfl nofun
  | labels session => exact testsOwner_ownedRow rfl rfl rfl nofun

/-! ## Answers -/

/-- Without joins and groups there is one row for each row of the source that passes. -/
theorem card_result {select : Select} (noJoins : select.joins = [])
    (ungrouped : select.grouping = []) (db : Database) (source : Multiset Row) :
    (select.result db source).card =
      (source.filter fun row => select.Holds db (.single select.source row)).card := by
  unfold Select.result Select.shown Select.found
  rw [if_pos ungrouped, Multiset.card_map, noJoins]
  have start : joinAll db [] (source.map (Combination.single select.source)) =
      source.map (Combination.single select.source) := rfl
  rw [start, Multiset.filter_map, Multiset.card_map]
  rfl

/-- At most one testcase has the id that is looked for. -/
theorem card_rows_testcaseLookup {db : Database} (coherent : Coherent db) (settings : Settings)
    (owner id : Uuid) : ((testcaseLookup settings owner id).statement.rows db).card ≤ 1 := by
  have unique : ((db.rows .testcases).filter fun row => some (.id id) = row.get .id).card ≤ 1 := by
    rw [← Multiset.count_map]
    exact Multiset.nodup_iff_count_le_one.mp coherent.testcaseIds _
  refine (card_result rfl rfl db _).trans_le (le_trans (Multiset.card_le_card ?_) unique)
  refine Multiset.monotone_filter_right _ fun row holds => ?_
  have passed := all_eq_yes_iff.mp holds _ List.mem_cons_self
  exact (Cell.compare_equal_eq_yes_iff.mp passed).2.symm

/-- A lookup gives all rows that there are. -/
theorem lookup_complete {settings : Settings} {owner : Uuid} {plan : Plan}
    (issued : Issued settings owner plan) (unpaged : plan.page = none) {db : Database}
    (coherent : Coherent db) {answer : List Row} (answers : plan.statement.Answers db answer) :
    answer = plan.statement.rows db := by
  obtain ⟨ordered, all, rfl⟩ := answers
  cases issued with
  | query success =>
      obtain ⟨page, pins, -, -, -, rfl⟩ := assembled_of_ok success
      cases unpaged
  | testcase id =>
      have few := card_rows_testcaseLookup coherent settings owner id
      rw [← all, Multiset.coe_card] at few
      rw [← all]
      exact congrArg _ (List.take_of_length_le few)
  | session id => exact all
  | labels session => exact all

/-- What the plans of an owner give depends on the rows of the owner only.  Two databases
with the same rows of the owner have the same rows to cut pages from, the same counts and
worst statuses, and the same answers; and these are the answers of a database with no
rows of others. -/
theorem owner_isolated {settings : Settings} {owner : Uuid} {plan : Plan}
    (issued : Issued settings owner plan) {db other : Database} (coherent : Coherent db)
    (otherCoherent : Coherent other)
    (same : ∀ table, (db.rows table).filter (Owned owner) =
      (other.rows table).filter (Owned owner)) :
    plan.statement.innerRows db = plan.statement.innerRows other ∧
      plan.statement.rows db = plan.statement.rows other ∧
      (∀ answer, plan.statement.Answers db answer ↔ plan.statement.Answers other answer) ∧
      plan.statement.innerRows db = plan.statement.innerRows (db.ownedBy owner) ∧
      plan.statement.rows db = plan.statement.rows (db.ownedBy owner) ∧
      (plan.page = none → ∀ answer, plan.statement.Answers db answer →
        answer = plan.statement.rows db) := by
  have confined := issued.confined
  have sameOwned : db.ownedBy owner = other.ownedBy owner :=
    congrArg Database.mk (funext same)
  have inner : plan.statement.innerRows db = plan.statement.innerRows other := by
    rw [← confined.innerRows_ownedBy coherent, sameOwned,
      confined.innerRows_ownedBy otherCoherent]
  have rows : plan.statement.rows db = plan.statement.rows other := by
    rw [← confined.rows_ownedBy coherent, sameOwned, confined.rows_ownedBy otherCoherent]
  refine ⟨inner, rows, ?_, (confined.innerRows_ownedBy coherent).symm,
    (confined.rows_ownedBy coherent).symm, ?_⟩
  · intro answer
    unfold Statement.Answers
    rw [rows]
  · intro unpaged answer answers
    exact lookup_complete issued unpaged coherent answers

/-! ## Two databases -/

/-- An id for each number. -/
def numbered (number : UInt8) : Uuid :=
  ⟨List.replicate 16 number, List.length_replicate⟩

/-- A session, and a testcase or a label that belongs to one. -/
def sessionRow (id owner : UInt8) : Row :=
  [("id", some (.id (numbered id))), ("user_id", some (.id (numbered owner)))]

def testcaseRow (id session owner : UInt8) (name : String) : Row :=
  [("id", some (.id (numbered id))), ("session_id", some (.id (numbered session))),
    ("user_id", some (.id (numbered owner))), ("name", some (.text name)),
    ("status", some (.number 3))]

def labelRow (session owner : UInt8) (key : String) : Row :=
  [("session_id", some (.id (numbered session))), ("user_id", some (.id (numbered owner))),
    ("key", some (.text key)), ("value", none)]

/-- Two sessions of one owner, one of them slow. -/
def lonely : Database where
  rows
    | .sessions => [sessionRow 1 0, sessionRow 2 0]
    | .testcases => [testcaseRow 1 1 0 "a", testcaseRow 2 1 0 "b", testcaseRow 3 2 0 "b"]
    | .labels => [labelRow 2 0 "slow"]

/-- The same with someone else's session, which is slow too. -/
def crowded : Database where
  rows
    | .sessions => [sessionRow 1 0, sessionRow 2 0, sessionRow 3 7]
    | .testcases => [testcaseRow 1 1 0 "a", testcaseRow 2 1 0 "b", testcaseRow 3 2 0 "b",
        testcaseRow 4 3 7 "a"]
    | .labels => [labelRow 3 7 "slow", labelRow 2 0 "slow"]

/-- What is named so, or is not slow. -/
def unhurriedQuery : Query where
  chain := [⟨.and, some (.text .name .equal "a")⟩, ⟨.or, some (.tagged .notEqual "slow")⟩]

theorem coherent_lonely : Coherent lonely :=
  ⟨by decide, by decide, by decide, by decide, by decide⟩

theorem coherent_crowded : Coherent crowded :=
  ⟨by decide, by decide, by decide, by decide, by decide⟩

/-- Two testcases are given in both databases, although the testcase of someone else has
the name that is asked for. -/
theorem owner_isolated_crowded :
    Coherent lonely ∧ Coherent crowded ∧ (crowded.rows .testcases).card = 4 ∧
      ∃ plan, ofQuery {} (numbered 0) unhurriedQuery .testcases = .ok plan ∧
        plan.statement.rows lonely = plan.statement.rows crowded ∧
        (plan.statement.rows crowded).card = 2 := by
  have same : ∀ table, (lonely.rows table).filter (Owned (numbered 0)) =
      (crowded.rows table).filter (Owned (numbered 0)) := by
    intro table
    cases table <;> decide
  have planned : ofQuery {} (numbered 0) unhurriedQuery .testcases = .ok _ := rfl
  have isolated := owner_isolated (.query planned) coherent_lonely coherent_crowded same
  exact ⟨coherent_lonely, coherent_crowded, rfl, _, planned, isolated.2.1, by decide⟩

end Plan
end TestQuery
