import TestQuery.Proofs.Sql.Relational

namespace TestQuery
namespace Sql

/-!
# Selections that stay with one owner

Only the table that a selection starts from is tested for the owner.  Whatever else it
looks at, labels and joined rows, is found by the id of a session, and in a coherent
database rows of one session have one owner.  So a selection that starts at rows of the
owner, and goes on by sessions only, finds in the whole database what it finds among
the rows of the owner.
-/

/-! ## Databases -/

namespace Database

/-- The row carries the id of the owner. -/
def Owned (owner : Uuid) (row : Row) : Prop :=
  row.get .userId = some (.id owner)

instance (owner : Uuid) : DecidablePred (Owned owner) :=
  fun _ => inferInstanceAs (Decidable (_ = _))

/-- The rows of the owner only. -/
def ownedBy (db : Database) (owner : Uuid) : Database where
  rows table := (db.rows table).filter (Owned owner)

/-- The row belongs to a session and carries the owner of the session. -/
def Belongs (db : Database) (row : Row) : Prop :=
  ∃ session ∈ db.rows .sessions,
    row.get .sessionId = session.get .id ∧ row.get .userId = session.get .userId

instance (db : Database) (row : Row) : Decidable (db.Belongs row) :=
  Multiset.decidableExistsMultiset

/-- Sessions and testcases have ids of their own, and every testcase and every label
belongs to a session.  Any other cell may be empty. -/
structure Coherent (db : Database) : Prop where
  identified : ∀ session ∈ db.rows .sessions, session.get .id ≠ none
  sessionIds : ((db.rows .sessions).map (·.get .id)).Nodup
  testcaseIds : ((db.rows .testcases).map (·.get .id)).Nodup
  testcases : ∀ testcase ∈ db.rows .testcases, db.Belongs testcase
  labels : ∀ label ∈ db.rows .labels, db.Belongs label

theorem Coherent.belongs {db : Database} (coherent : Coherent db) {table : Table}
    (apart : table ≠ .sessions) {row : Row} (member : row ∈ db.rows table) : db.Belongs row := by
  cases table with
  | sessions => exact absurd rfl apart
  | testcases => exact coherent.testcases row member
  | labels => exact coherent.labels row member

end Database

open Database (Owned Coherent)

/-- The column of a table that names a session. -/
def Table.sessionColumn : Table → Column
  | .sessions => .id
  | .testcases | .labels => .sessionId

/-- The cell is the id of a session of the owner. -/
def OwnSession (db : Database) (owner : Uuid) (cell : Cell) : Prop :=
  ∃ session ∈ db.rows .sessions, session.get .id = cell ∧ Owned owner session

section

variable {db : Database} {owner : Uuid}

theorem OwnSession.ne_none (coherent : Coherent db) {cell : Cell}
    (own : OwnSession db owner cell) : cell ≠ none := by
  obtain ⟨session, member, rfl, -⟩ := own
  exact coherent.identified session member

/-- A row of the owner names a session of the owner. -/
theorem ownSession_of_owned (coherent : Coherent db) {table : Table} {row : Row}
    (member : row ∈ db.rows table) (owned : Owned owner row) :
    OwnSession db owner (row.get table.sessionColumn) := by
  by_cases isSessions : table = .sessions
  · subst isSessions
    exact ⟨row, member, rfl, owned⟩
  · have column : table.sessionColumn = .sessionId := by
      cases table with
      | sessions => exact absurd rfl isSessions
      | testcases => rfl
      | labels => rfl
    obtain ⟨session, isSession, named, carried⟩ := coherent.belongs isSessions member
    rw [column, named]
    exact ⟨session, isSession, rfl, carried.symm.trans owned⟩

/-- What belongs to a session of the owner is the owner's. -/
theorem owned_of_ownSession (coherent : Coherent db) {table : Table} (belongs : table ≠ .sessions)
    {row : Row} (member : row ∈ db.rows table)
    (own : OwnSession db owner (row.get .sessionId)) : Owned owner row := by
  obtain ⟨session, isSession, named, carried⟩ := coherent.belongs belongs member
  obtain ⟨other, isOther, sameId, owned⟩ := own
  have same : other = session :=
    Multiset.inj_on_of_nodup_map coherent.sessionIds other isOther session isSession
      (sameId.trans named)
  unfold Owned
  rw [carried, ← same]
  exact owned

/-! ## Tests -/

/-- A test that looks for a session looks for the one in the given column. -/
def Test.LooksAt (key : ColumnRef) : Test → Prop
  | .compare _ _ _ => True
  | .labelled column _ _ _ => column = key

def Condition.LooksAt (key : ColumnRef) : Condition → Prop
  | .test single => single.LooksAt key
  | .joined left _ right => left.LooksAt key ∧ right.LooksAt key

theorem Condition.looksAt_iff (condition : Condition) {key : ColumnRef} :
    condition.LooksAt key ↔ ∀ test ∈ condition.tests, test.LooksAt key := by
  induction condition with
  | test single => rw [LooksAt, tests, List.forall_mem_singleton]
  | joined left connective right inductionHypothesis =>
      rw [LooksAt, tests, List.forall_mem_append, List.forall_mem_singleton, inductionHypothesis]

/-- Labels of other owners belong to other sessions. -/
theorem among_sessionsLabelled (coherent : Coherent db) {cell : Cell}
    (own : OwnSession db owner cell) (key : String) (value : Option String) :
    cell.among ((db.ownedBy owner).sessionsLabelled key value) =
      cell.among (db.sessionsLabelled key value) := by
  unfold Database.sessionsLabelled Database.ownedBy
  rw [Multiset.filter_comm]
  apply Cell.among_filter
  intro label selected foreign
  have member := Multiset.mem_of_mem_filter selected
  have belongs : Table.labels ≠ .sessions := nofun
  obtain ⟨session, isSession, named, -⟩ := coherent.labels label member
  refine Cell.compare_equal_of_ne (own.ne_none coherent) ?_ ?_
  · rw [named]
    exact coherent.identified session isSession
  · rintro rfl
    exact foreign (owned_of_ownSession coherent belongs member own)

-- the session needs an id: nothing is among no sessions, and it is unknown whether an empty
-- cell is among some, be they those of others
example : Cell.among none 0 = .no ∧ Cell.among none {some (.number 1)} = .unknown := by
  decide

theorem Test.truth_ownedBy (coherent : Coherent db) {key : ColumnRef} {combination : Combination}
    (own : OwnSession db owner (combination.get key)) {test : Test} (looks : test.LooksAt key) :
    test.truth (db.ownedBy owner) combination = test.truth db combination := by
  cases test with
  | compare column comparison parameter => rfl
  | labelled column comparison tag value =>
      cases looks
      cases comparison with
      | equal => exact among_sessionsLabelled coherent own tag value
      | notEqual => exact congrArg Truth.not (among_sessionsLabelled coherent own tag value)

theorem Condition.truth_ownedBy (coherent : Coherent db) {key : ColumnRef}
    {combination : Combination} (own : OwnSession db owner (combination.get key))
    {condition : Condition} (looks : condition.LooksAt key) :
    condition.truth (db.ownedBy owner) combination = condition.truth db combination := by
  induction condition with
  | test single => exact single.truth_ownedBy coherent own looks
  | joined left connective right inductionHypothesis =>
      unfold Condition.truth
      rw [inductionHypothesis looks.1, right.truth_ownedBy coherent own looks.2]

/-! ## Joins -/

/-- The join adds rows that belong to the session in the given column. -/
structure Join.Follows (key : ColumnRef) (join : Join) : Prop where
  left : join.left = key
  right : join.right = ⟨join.relation, .sessionId⟩
  belongs : join.table ≠ .sessions
  apart : key.relation ≠ join.relation
  tests : ∀ test ∈ join.tests, test.LooksAt key

section

variable {key : ColumnRef} {join : Join} {combination : Combination}

theorem Join.Follows.get_set (follows : join.Follows key) (combination : Combination) (row : Row) :
    (combination.set join.relation row).get key = combination.get key := by
  unfold Combination.get
  rw [Combination.set_other _ _ follows.apart]

theorem Join.Follows.same_session (follows : join.Follows key) {row : Row}
    (fits : join.Fits db combination row) : row.get .sessionId = combination.get key := by
  have equal := all_eq_yes_iff.mp fits _ List.mem_cons_self
  obtain ⟨-, same⟩ := Cell.compare_equal_eq_yes_iff.mp equal
  rw [follows.left, follows.get_set, follows.right] at same
  rw [same, Combination.get, Combination.set_same]

theorem Join.Follows.fits_ownedBy (coherent : Coherent db) (follows : join.Follows key)
    (own : OwnSession db owner (combination.get key)) (row : Row) :
    join.Fits (db.ownedBy owner) combination row ↔ join.Fits db combination row := by
  have ownAfter : OwnSession db owner ((combination.set join.relation row).get key) := by
    rw [follows.get_set]
    exact own
  unfold Join.Fits
  have tests : join.tests.map (·.truth (db.ownedBy owner) (combination.set join.relation row)) =
      join.tests.map (·.truth db (combination.set join.relation row)) :=
    List.map_congr_left fun test member =>
      test.truth_ownedBy coherent ownAfter (follows.tests test member)
  simp only [tests]

/-- The rows that are joined at a session of the owner are the owner's. -/
theorem Join.Follows.extend_ownedBy (coherent : Coherent db) (follows : join.Follows key)
    (own : OwnSession db owner (combination.get key)) :
    join.extend (db.ownedBy owner) combination = join.extend db combination := by
  have fitting : ((db.ownedBy owner).rows join.table).filter
      (join.Fits (db.ownedBy owner) combination) =
        (db.rows join.table).filter (join.Fits db combination) := by
    unfold Database.ownedBy
    rw [Multiset.filter_filter]
    apply Multiset.filter_congr
    intro row member
    have fitsSame := follows.fits_ownedBy coherent own row
    constructor
    · rintro ⟨fits, -⟩
      exact fitsSame.mp fits
    · intro fits
      refine ⟨fitsSame.mpr fits, owned_of_ownSession coherent follows.belongs member ?_⟩
      rw [follows.same_session fits]
      exact own
  unfold Join.extend
  rw [fitting]

/-- No relation but the joined one changes. -/
theorem Join.mem_extend {result : Combination} (member : result ∈ join.extend db combination) :
    ∃ row, result = combination.set join.relation row := by
  unfold Join.extend at member
  dsimp only at member
  split at member
  · exact ⟨[], Multiset.mem_singleton.mp member⟩
  · obtain ⟨row, -, same⟩ := Multiset.mem_map.mp member
    exact ⟨row, same.symm⟩

end

theorem joinAll_add (joins : List Join) (first second : Multiset Combination) :
    joinAll db joins (first + second) = joinAll db joins first + joinAll db joins second := by
  induction joins generalizing first second with
  | nil => rfl
  | cons join joins inductionHypothesis =>
      unfold joinAll at inductionHypothesis ⊢
      rw [List.foldl_cons, Multiset.add_bind, inductionHypothesis]
      rfl

/-- A relation that no join adds to keeps its row. -/
theorem mem_joinAll {joins : List Join} {start : Multiset Combination} {relation : Relation}
    (apart : ∀ join ∈ joins, relation ≠ join.relation) {result : Combination}
    (member : result ∈ joinAll db joins start) :
    ∃ first ∈ start, result relation = first relation := by
  induction joins generalizing start with
  | nil => exact ⟨result, member, rfl⟩
  | cons join joins inductionHypothesis =>
      obtain ⟨middle, isMiddle, same⟩ := inductionHypothesis
        (fun other isOther => apart other (List.mem_cons_of_mem _ isOther)) member
      obtain ⟨first, isFirst, extended⟩ := Multiset.mem_bind.mp isMiddle
      obtain ⟨row, rfl⟩ := Join.mem_extend extended
      refine ⟨first, isFirst, same.trans ?_⟩
      exact Combination.set_other _ _ (apart join List.mem_cons_self)

theorem joinAll_ownedBy (coherent : Coherent db) {key : ColumnRef} {joins : List Join}
    (follow : ∀ join ∈ joins, join.Follows key) {start : Multiset Combination}
    (own : ∀ first ∈ start, OwnSession db owner (first.get key)) :
    joinAll (db.ownedBy owner) joins start = joinAll db joins start := by
  induction joins generalizing start with
  | nil => rfl
  | cons join joins inductionHypothesis =>
      have follows := follow join List.mem_cons_self
      have extended : start.bind (join.extend (db.ownedBy owner)) = start.bind (join.extend db) :=
        Multiset.bind_congr fun first isFirst => follows.extend_ownedBy coherent (own first isFirst)
      unfold joinAll at inductionHypothesis ⊢
      rw [List.foldl_cons, List.foldl_cons, extended]
      refine inductionHypothesis
        (fun other isOther => follow other (List.mem_cons_of_mem _ isOther)) ?_
      intro result member
      obtain ⟨first, isFirst, added⟩ := Multiset.mem_bind.mp member
      obtain ⟨row, rfl⟩ := Join.mem_extend added
      rw [follows.get_set]
      exact own first isFirst

/-! ## Selections -/

/-- A selection that starts at rows of the owner and goes on by their sessions. -/
structure Select.Confined (owner : Uuid) (table : Table) (select : Select) : Prop where
  source : select.source = .table table
  owned : .test (.compare (table.col .userId) .equal (.id owner)) ∈ select.conditions
  conditions : ∀ condition ∈ select.conditions, condition.LooksAt (table.col table.sessionColumn)
  joins : ∀ join ∈ select.joins, join.Follows (table.col table.sessionColumn)

namespace Select.Confined

variable {table : Table} {select : Select}

theorem owned_of_holds (confined : select.Confined owner table) {combination : Combination}
    (holds : select.Holds db combination) : Owned owner (combination (.table table)) := by
  have passed := all_eq_yes_iff.mp holds _ (List.mem_map_of_mem confined.owned)
  exact (Cell.compare_equal_eq_yes_iff.mp passed).2

theorem holds_ownedBy (coherent : Coherent db) (confined : select.Confined owner table)
    {combination : Combination}
    (own : OwnSession db owner (combination.get (table.col table.sessionColumn))) :
    select.Holds (db.ownedBy owner) combination ↔ select.Holds db combination := by
  unfold Select.Holds
  have truths : select.conditions.map (·.truth (db.ownedBy owner) combination) =
      select.conditions.map (·.truth db combination) :=
    List.map_congr_left fun condition member =>
      condition.truth_ownedBy coherent own (confined.conditions condition member)
  rw [truths]

/-- Rows of other owners lead nowhere. -/
theorem filter_joinAll_foreign (confined : select.Confined owner table)
    {rows : Multiset Row} (foreign : ∀ row ∈ rows, ¬ Owned owner row) :
    (joinAll db select.joins (rows.map (.single (.table table)))).filter (select.Holds db) = 0 := by
  rw [Multiset.filter_eq_nil]
  intro result member holds
  obtain ⟨first, isFirst, same⟩ := mem_joinAll
    (fun join isJoin => (confined.joins join isJoin).apart) member
  obtain ⟨row, isRow, rfl⟩ := Multiset.mem_map.mp isFirst
  have owned := confined.owned_of_holds holds
  have isRowOf : (table.col table.sessionColumn).relation = .table table := rfl
  rw [isRowOf, Combination.single_same] at same
  rw [same] at owned
  exact foreign row isRow owned

/-- A confined selection finds the same among the rows of the owner. -/
theorem found_ownedBy (coherent : Coherent db) (confined : select.Confined owner table) :
    select.found (db.ownedBy owner) ((db.ownedBy owner).rows table) =
      select.found db (db.rows table) := by
  have split : (db.rows table).filter (Owned owner) +
      (db.rows table).filter (fun row => ¬ Owned owner row) = db.rows table :=
    Multiset.filter_add_not _ _
  have own : ∀ first ∈ ((db.rows table).filter (Owned owner)).map
      (Combination.single (.table table)),
      OwnSession db owner (first.get (table.col table.sessionColumn)) := by
    intro first isFirst
    obtain ⟨row, isRow, rfl⟩ := Multiset.mem_map.mp isFirst
    obtain ⟨member, owned⟩ := Multiset.mem_filter.mp isRow
    have cell : (Combination.single (.table table) row).get (table.col table.sessionColumn) =
        row.get table.sessionColumn :=
      congrArg (Row.get · _) (Combination.single_same _ _)
    rw [cell]
    exact ownSession_of_owned coherent member owned
  have ownAfter : ∀ result ∈ joinAll db select.joins
      (((db.rows table).filter (Owned owner)).map (Combination.single (.table table))),
      OwnSession db owner (result.get (table.col table.sessionColumn)) := by
    intro result member
    obtain ⟨first, isFirst, same⟩ := mem_joinAll
      (fun join isJoin => (confined.joins join isJoin).apart) member
    unfold Combination.get
    rw [same]
    exact own first isFirst
  have sameRows : (db.ownedBy owner).rows table = (db.rows table).filter (Owned owner) := rfl
  unfold Select.found
  rw [confined.source, sameRows, joinAll_ownedBy coherent confined.joins own]
  -- what starts at rows of others is joined too, and dropped by the test for the owner
  conv_rhs => rw [← split, Multiset.map_add, joinAll_add, Multiset.filter_add]
  rw [confined.filter_joinAll_foreign fun row isRow => (Multiset.mem_filter.mp isRow).2,
    Multiset.add_zero]
  exact Multiset.filter_congr fun result member =>
    confined.holds_ownedBy coherent (ownAfter result member)

end Select.Confined

/-! ## Statements -/

/-- The rows are selected within the owner, and a page only shows what was selected. -/
def Statement.Confined (owner : Uuid) : Statement → Prop
  | .plain select => ∃ table, select.Confined owner table
  | .paged rows page =>
    (∃ table, rows.Confined owner table) ∧ page.source = .page ∧ page.joins = [] ∧
      page.conditions = []

theorem Select.Confined.result_ownedBy (coherent : Coherent db) {table : Table} {select : Select}
    (confined : select.Confined owner table) :
    select.result (db.ownedBy owner) ((db.ownedBy owner).source 0 select.source) =
      select.result db (db.source 0 select.source) := by
  unfold Select.result
  rw [confined.source]
  exact congrArg select.shown (confined.found_ownedBy coherent)

theorem Statement.Confined.innerRows_ownedBy (coherent : Coherent db) {statement : Statement}
    (confined : statement.Confined owner) :
    statement.innerRows (db.ownedBy owner) = statement.innerRows db := by
  cases statement with
  | plain select =>
      obtain ⟨table, confined⟩ := confined
      exact confined.result_ownedBy coherent
  | paged rows page =>
      obtain ⟨⟨table, confined⟩, -⟩ := confined
      exact confined.result_ownedBy coherent

/-- A selection that neither joins nor tests finds all rows of its source. -/
theorem Select.found_of_bare {select : Select} (noJoins : select.joins = [])
    (noConditions : select.conditions = []) (db : Database) (source : Multiset Row) :
    select.found db source = source.map (.single select.source) := by
  unfold Select.found
  rw [noJoins]
  apply Multiset.filter_eq_self.mpr
  intro combination _
  unfold Select.Holds
  rw [noConditions]
  rfl

theorem Statement.Confined.rows_ownedBy (coherent : Coherent db) {statement : Statement}
    (confined : statement.Confined owner) :
    statement.rows (db.ownedBy owner) = statement.rows db := by
  have inner := confined.innerRows_ownedBy coherent
  cases statement with
  | plain select => exact inner
  | paged rows page =>
      obtain ⟨-, source, noJoins, noConditions⟩ := confined
      simp only [Statement.rows, inner, source, Database.source, Select.result,
        Select.found_of_bare noJoins noConditions]

end

end Sql
end TestQuery
