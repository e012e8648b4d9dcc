import TestQuery.Plan.Lookup
import TestQuery.Proofs.Outcome
import TestQuery.Proofs.Sql.Spacing

namespace TestQuery
namespace Plan

open Sql
open Query (Purpose)

/-!
# What a planned query consists of

The three plans of a query differ in the table that they start from, in the column
that holds the session, in how a selector is turned into conditions and in where
these stand.  Here the differences are functions of the purpose, and one theorem
says what every plan consists of.  Later statements about plans rest on it and do
not open the planning again.
-/

/-! ## The parts of a plan, by purpose -/

def scopeTable : Purpose → Table
  | .sessions => .sessions
  | .testcases | .groups => .testcases

def sessionKey : Purpose → ColumnRef
  | .sessions => Table.sessions.col .id
  | .testcases | .groups => Table.testcases.col .sessionId

def keysOf (query : Query) : List GroupKey :=
  query.groupBy.getD []

/-- The conditions that pin a query to one group. -/
def pinsOf (query : Query) : Purpose → Except Query.Error (List Condition)
  | .groups => enumerationPins (keysOf query) query
  | .testcases => listPins (sessionKey .testcases) query
  | .sessions => listPins (sessionKey .sessions) query

/-- The condition of the chain, if the chain has one. -/
def chainOf (purpose : Purpose) (query : Query) : List Condition :=
  (chainCondition (sessionKey purpose) query).toList

/-- The conditions of the rows, in the order in which they are written. -/
def conditionsOf (owner : Uuid) (query : Query) (purpose : Purpose) (pins : List Condition) :
    List Condition :=
  match purpose with
  | .groups => scope owner (scopeTable purpose) query ++ pins ++ chainOf purpose query
  | _ => scope owner (scopeTable purpose) query ++ chainOf purpose query ++ pins

def rowsOf (query : Query) (conditions : List Condition) : Purpose → Select
  | .testcases => testcaseRows conditions
  | .sessions =>
    { sessionRows conditions with ordering := [(Table.sessions.col .createdAt, .descending)] }
  | .groups => groupRows (keysOf query) conditions

theorem rowsOf_conditions (query : Query) (conditions : List Condition) (purpose : Purpose) :
    (rowsOf query conditions purpose).conditions = conditions := by
  cases purpose <;> rfl

def windowOf (query : Query) (page : Page) : Purpose → Select
  | .testcases =>
    pageSelect page [.leastOfRows (pageColumn .status) .aggregatedStatus]
      [(pageColumn .createdAt, .descending)]
  | .sessions => pageSelect page [] [(pageColumn .createdAt, .descending)]
  | .groups =>
    pageSelect page [] ((groupColumnsOf (keysOf query)).map fun column =>
      (pageColumn column.column, .ascending))

/-- What the rows of the plan are. -/
def kindOf : Purpose → RecordKind
  | .testcases => .testcases
  | .sessions => .sessions
  | .groups => .groups

/-- The columns of an enumeration; lists have none. -/
def columnsOf (query : Query) : Purpose → List GroupColumn
  | .groups => groupColumnsOf (keysOf query)
  | .testcases | .sessions => []

/-- The plan that these parts make up. -/
def assembled (settings : Settings) (owner : Uuid) (query : Query) (purpose : Purpose)
    (page : Page) (pins : List Condition) : Plan where
  kind := kindOf purpose
  settings := settings
  statement :=
    .paged (rowsOf query (conditionsOf owner query purpose pins) purpose)
      (windowOf query page purpose)
  groupColumns := columnsOf query purpose
  page := some page

/-! ## Planning succeeds only so -/

theorem filter_eq_ok {key : ColumnRef} {query : Query} {conditions : List Condition}
    (success : filter key query = .ok conditions) :
    conditions = (chainCondition key query).toList := by
  rw [filter] at success
  split at success
  · cases success
  · exact (Except.ok.inj success).symm

theorem enumerationKeys_eq_ok {query : Query} {keys : List GroupKey}
    (success : enumerationKeys query = .ok keys) : keys ≠ [] ∧ keysOf query = keys := by
  rw [enumerationKeys] at success
  split at success
  · cases success
  · cases success
  · rename_i notEmpty found
    cases success
    exact ⟨notEmpty, by rw [keysOf, found]; rfl⟩

/-- The number of rows that a page has at most. -/
def limitOf (query : Query) : Nat :=
  if query.limit = 0 then 100 else query.limit.toNat

theorem pageOf_eq_ok {query : Query} {page : Page} (success : pageOf query = .ok page) :
    page.offset = query.offset.toNat ∧ page.limit = limitOf query := by
  rw [pageOf, Page.ofQuery] at success
  rw [limitOf]
  split at success
  · cases success
  · split at success
    · rename_i usual
      cases success
      exact ⟨rfl, (if_pos usual).symm⟩
    · rename_i chosen
      split at success
      · cases success
      · split at success
        · cases success
        · cases success
          exact ⟨rfl, (if_neg chosen).symm⟩

/-- Every plan of a query is put together from these parts. -/
theorem assembled_of_ok {settings : Settings} {owner : Uuid} {query : Query} {purpose : Purpose}
    {plan : Plan} (success : ofQuery settings owner query purpose = .ok plan) :
    ∃ page pins, pageOf query = .ok page ∧ pinsOf query purpose = .ok pins ∧
      (purpose = .groups → keysOf query ≠ []) ∧
      plan = assembled settings owner query purpose page pins := by
  cases purpose with
  | testcases =>
      obtain ⟨page, paged, afterPage⟩ := bind_eq_ok_iff.mp success
      obtain ⟨chain, filtered, afterChain⟩ := bind_eq_ok_iff.mp afterPage
      obtain ⟨pins, pinned, afterPins⟩ := bind_eq_ok_iff.mp afterChain
      cases afterPins
      cases filter_eq_ok filtered
      exact ⟨page, pins, paged, pinned, nofun, rfl⟩
  | sessions =>
      obtain ⟨page, paged, afterPage⟩ := bind_eq_ok_iff.mp success
      obtain ⟨chain, filtered, afterChain⟩ := bind_eq_ok_iff.mp afterPage
      obtain ⟨pins, pinned, afterPins⟩ := bind_eq_ok_iff.mp afterChain
      cases afterPins
      cases filter_eq_ok filtered
      exact ⟨page, pins, paged, pinned, nofun, rfl⟩
  | groups =>
      obtain ⟨page, paged, afterPage⟩ := bind_eq_ok_iff.mp success
      obtain ⟨keys, keyed, afterKeys⟩ := bind_eq_ok_iff.mp afterPage
      obtain ⟨pins, pinned, afterPins⟩ := bind_eq_ok_iff.mp afterKeys
      obtain ⟨chain, filtered, afterChain⟩ := bind_eq_ok_iff.mp afterPins
      obtain ⟨nonempty, rfl⟩ := enumerationKeys_eq_ok keyed
      cases afterChain
      cases filter_eq_ok filtered
      exact ⟨page, pins, paged, pinned, fun _ => nonempty, rfl⟩

/-! ## The text of a plan -/

/-- The text of a plan falls apart into the lexemes of its statement. -/
theorem scan_sql (plan : Plan) :
    Lexeme.scan plan.settings.dialect plan.sql.toList =
      Fragment.lexemesFrom plan.settings.dialect plan.settings.tables 1
        plan.statement.fragments := by
  have text : plan.sql.toList =
      Fragment.renderFrom plan.settings.dialect plan.settings.tables 1 plan.statement.fragments :=
    String.toList_ofList
  rw [text, Statement.scan_render]

/-! ## Pins -/

/-- The test that pins a tag to a value, `number` tags being before it. -/
def tagTest (purpose : Purpose) (number : Nat) (tag value : String) : Test :=
  match purpose with
  | .groups => .compare ⟨.label number, .value⟩ .equal (.text value)
  | _ => .labelled (sessionKey purpose) .equal tag (some value)

/-- The pins of keys and values, which belong together one by one. -/
inductive Pinned (purpose : Purpose) :
    (number : Nat) → List GroupKey → List String → List Condition → Prop where
  | nil {number : Nat} : Pinned purpose number [] [] []
  | session {number : Nat} {keys : List GroupKey} {value : String} {values : List String}
      {id : Uuid} {pins : List Condition} (named : Uuid.ofText? value.toList = some id)
      (others : Pinned purpose number keys values pins) :
      Pinned purpose number (.session :: keys) (value :: values)
        (.test (.compare (sessionKey purpose) .equal (.id id)) :: pins)
  | tag {number : Nat} {keys : List GroupKey} {tag value : String} {values : List String}
      {pins : List Condition} (others : Pinned purpose (number + 1) keys values pins) :
      Pinned purpose number (.tag tag :: keys) (value :: values)
        (.test (tagTest purpose number tag value) :: pins)

theorem selectedSession_eq_ok {value : String} {id : Uuid}
    (success : selectedSession value = .ok id) : Uuid.ofText? value.toList = some id := by
  rw [selectedSession] at success
  split at success
  · rename_i found
    rw [found, Except.ok.inj success]
  · cases success

theorem listPin_session_eq_ok {key : ColumnRef} {value : String} {pin : Condition}
    (success : listPin key .session value = .ok pin) :
    ∃ id, Uuid.ofText? value.toList = some id ∧ pin = .test (.compare key .equal (.id id)) := by
  rw [listPin] at success
  split at success
  · rename_i id selected
    exact ⟨id, selectedSession_eq_ok selected, (Except.ok.inj success).symm⟩
  · cases success

theorem pinned_of_listPins {purpose : Purpose} (isList : purpose ≠ .groups) {keys : List GroupKey}
    {values : List String} (lengths : values.length = keys.length) (number : Nat)
    {pins : List Condition} (success : (keys.zip values).mapM
      (fun pair => listPin (sessionKey purpose) pair.1 pair.2) = .ok pins) :
    Pinned purpose number keys values pins := by
  induction keys generalizing values number pins with
  | nil =>
      cases List.eq_nil_of_length_eq_zero lengths
      cases success
      exact .nil
  | cons key keys inductionHypothesis =>
      cases values with
      | nil => cases lengths
      | cons value values =>
          rw [List.zip_cons_cons, List.mapM_cons] at success
          rcases bind_eq_ok_iff.mp success with ⟨pin, pinned, afterPin⟩
          rcases bind_eq_ok_iff.mp afterPin with ⟨others, pinnedOthers, done⟩
          cases done
          have tail (next : Nat) := inductionHypothesis (Nat.succ.inj lengths) next pinnedOthers
          cases key with
          | session =>
              rcases listPin_session_eq_ok pinned with ⟨id, named, rfl⟩
              exact .session named (tail number)
          | tag tag =>
              cases pinned
              cases purpose with
              | groups => exact absurd rfl isList
              | testcases => exact .tag (tail (number + 1))
              | sessions => exact .tag (tail (number + 1))

theorem pinned_of_groupPins {keys : List GroupKey} {values : List String}
    (lengths : values.length = keys.length) (number : Nat) {pins : List Condition}
    (success : groupPins keys (keyColumns number keys) values = .ok pins) :
    Pinned .groups number keys values pins := by
  induction keys generalizing values number pins with
  | nil =>
      cases List.eq_nil_of_length_eq_zero lengths
      cases success
      exact .nil
  | cons key keys inductionHypothesis =>
      cases values with
      | nil => cases lengths
      | cons value values =>
          cases key with
          | session =>
              rcases bind_eq_ok_iff.mp success with ⟨pin, pinned, afterPin⟩
              rcases bind_eq_ok_iff.mp afterPin with ⟨others, pinnedOthers, done⟩
              cases done
              rcases listPin_session_eq_ok pinned with ⟨id, named, rfl⟩
              exact .session named (inductionHypothesis (Nat.succ.inj lengths) number pinnedOthers)
          | tag tag =>
              rcases bind_eq_ok_iff.mp success with ⟨pin, pinned, afterPin⟩
              rcases bind_eq_ok_iff.mp afterPin with ⟨others, pinnedOthers, done⟩
              cases pinned
              cases done
              exact .tag (inductionHypothesis (Nat.succ.inj lengths) (number + 1) pinnedOthers)

/-- The keys of a query with their selected values.  Without keys, or without a selector,
there are none. -/
def selection (query : Query) : List GroupKey × List String :=
  match query.groupBy, query.selector with
  | some keys, some values => (keys, values)
  | _, _ => ([], [])

/-- The pins of a plan belong to the selection of its query. -/
theorem pinned_of_ok {query : Query} {purpose : Purpose} {pins : List Condition}
    (success : pinsOf query purpose = .ok pins) :
    Pinned purpose 0 (selection query).1 (selection query).2 pins := by
  have ofList (isList : purpose ≠ .groups)
      (listed : listPins (sessionKey purpose) query = .ok pins) :
      Pinned purpose 0 (selection query).1 (selection query).2 pins := by
    rw [listPins] at listed
    rw [selection]
    split at listed
    · cases listed
      simp only [*]
      exact .nil
    · cases listed
    · rename_i keys values grouping selected
      split at listed
      · rename_i lengths
        rw [grouping, selected]
        exact pinned_of_listPins isList lengths 0 listed
      · cases listed
  cases purpose with
  | testcases => exact ofList nofun success
  | sessions => exact ofList nofun success
  | groups =>
      rw [pinsOf, enumerationPins, keysOf] at success
      rw [selection]
      cases selected : query.selector with
      | none =>
          rw [selected] at success
          cases success
          cases query.groupBy <;> exact .nil
      | some values =>
          rw [selected] at success
          simp only at success
          split at success
          · rename_i lengths
            cases grouping : query.groupBy with
            | none =>
                rw [grouping] at success
                cases success
                exact .nil
            | some keys =>
                rw [grouping] at success lengths
                exact pinned_of_groupPins lengths 0 success
          · cases success

end Plan
end TestQuery
