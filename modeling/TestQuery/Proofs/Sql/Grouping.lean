import TestQuery.Proofs.Sql.Ownership

namespace TestQuery
namespace Sql

/-!
# Joins, groups and counts

A row that matches several others is found several times, once for each way to join
them.  The least value and the number of different values in what is found do not depend
on that, so an aggregate can be computed from the rows that take part, each taken once.
-/

/-! ## Tests and cells -/

theorem Truth.or_eq_yes_iff {left right : Truth} :
    Truth.or left right = .yes ↔ left = .yes ∨ right = .yes := by
  cases left <;> cases right <;> simp [Truth.or]

/-- A known cell is among the cells that it is a member of; nothing is known to be equal to
an empty cell. -/
theorem Cell.among_eq_yes_iff {cell : Cell} {cells : Multiset Cell} :
    cell.among cells = .yes ↔ cell ≠ none ∧ cell ∈ cells := by
  induction cells using Multiset.induction_on with
  | empty => simp [among]
  | cons other cells inductionHypothesis =>
      unfold among at inductionHypothesis ⊢
      rw [Multiset.map_cons, Multiset.fold_cons_left, Truth.or_eq_yes_iff,
        compare_equal_eq_yes_iff, inductionHypothesis, Multiset.mem_cons]
      tauto

section

variable {db : Database}

theorem Test.truth_congr {test : Test} {first second : Combination}
    (agree : first test.column.relation = second test.column.relation) :
    test.truth db first = test.truth db second := by
  have sameCell : first.get test.column = second.get test.column := by
    rw [Combination.get, Combination.get, agree]
  cases test with
  | compare column comparison parameter =>
      exact congrArg (Cell.compare comparison · _) sameCell
  | labelled column comparison key value =>
      cases comparison with
      | equal => exact congrArg (Cell.among · _) sameCell
      | notEqual => exact congrArg (fun cell => (Cell.among cell _).not) sameCell

/-- A condition depends on the relations that its tests look at. -/
theorem Condition.truth_congr {condition : Condition} {first second : Combination}
    (agree : ∀ test ∈ condition.tests,
      first test.column.relation = second test.column.relation) :
    condition.truth db first = condition.truth db second := by
  induction condition with
  | test single => exact Test.truth_congr (agree single (List.mem_singleton.mpr rfl))
  | joined left connective right inductionHypothesis =>
      rcases List.forall_mem_append.mp agree with ⟨ofLeft, ofRight⟩
      rw [Condition.truth, inductionHypothesis ofLeft,
        Test.truth_congr (ofRight right (List.mem_singleton.mpr rfl))]
      rfl

theorem Select.holds_iff {select : Select} {combination : Combination} :
    select.Holds db combination ↔
      ∀ condition ∈ select.conditions, condition.truth db combination = .yes := by
  rw [Select.Holds, all_eq_yes_iff, List.forall_mem_map]

theorem Database.mem_sessionsLabelled {key value : String} {session : Cell} :
    session ∈ db.sessionsLabelled key (some value) ↔
      ∃ label ∈ db.rows .labels, label.get .key = some (.text key) ∧
        label.get .value = some (.text value) ∧ label.get .sessionId = session := by
  simp only [Database.sessionsLabelled, Multiset.mem_map, Multiset.mem_filter, all_eq_yes_iff,
    Option.toList_some, List.map_cons, List.map_nil, List.forall_mem_cons,
    Cell.compare_equal_eq_yes_iff]
  constructor
  · rintro ⟨label, ⟨member, ⟨-, hasKey⟩, ⟨-, hasValue⟩, -⟩, ofSession⟩
    exact ⟨label, member, hasKey, hasValue, ofSession⟩
  · rintro ⟨label, member, hasKey, hasValue, ofSession⟩
    refine ⟨label, ⟨member, ⟨?_, hasKey⟩, ⟨?_, hasValue⟩, List.forall_mem_nil _⟩, ofSession⟩
    · rw [hasKey]
      nofun
    · rw [hasValue]
      nofun

/-! ## Joins, one after another -/

/-- What is joined is joined to one combination of the start. -/
theorem mem_joinAll_iff {joins : List Join} {start : Multiset Combination}
    {result : Combination} :
    result ∈ joinAll db joins start ↔ ∃ first ∈ start, result ∈ joinAll db joins {first} := by
  induction start using Multiset.induction_on with
  | empty =>
      have nothing : joinAll db joins 0 = 0 := by
        induction joins with
        | nil => rfl
        | cons join joins inductionHypothesis => exact inductionHypothesis
      simp [nothing]
  | cons first start inductionHypothesis =>
      rw [← Multiset.singleton_add, joinAll_add, Multiset.mem_add, inductionHypothesis]
      simp

theorem mem_joinAll_cons {join : Join} {joins : List Join} {first result : Combination} :
    result ∈ joinAll db (join :: joins) {first} ↔
      ∃ middle ∈ join.extend db first, result ∈ joinAll db joins {middle} := by
  have unfolded : joinAll db (join :: joins) {first} = joinAll db joins (join.extend db first) :=
    congrArg (joinAll db joins) (Multiset.singleton_bind first (join.extend db))
  rw [unfolded, mem_joinAll_iff]

/-- A relation that no join adds to keeps its row. -/
theorem eq_of_mem_joinAll {joins : List Join} {relation : Relation}
    (apart : ∀ join ∈ joins, relation ≠ join.relation) {first result : Combination}
    (member : result ∈ joinAll db joins {first}) : result relation = first relation := by
  rcases mem_joinAll apart member with ⟨other, isFirst, same⟩
  rw [same, Multiset.mem_singleton.mp isFirst]

/-- An inner join adds the rows that fit. -/
theorem Join.mem_extend_inner {join : Join} (isInner : join.outer = false)
    {first result : Combination} :
    result ∈ join.extend db first ↔
      ∃ row ∈ db.rows join.table,
        join.Fits db first row ∧ result = first.set join.relation row := by
  have notOuter (nothing : Prop) : ¬ (join.outer = true ∧ nothing) := by simp [isInner]
  unfold Join.extend
  simp only [if_neg (notOuter _), Multiset.mem_map, Multiset.mem_filter]
  constructor
  · rintro ⟨row, ⟨member, fits⟩, rfl⟩
    exact ⟨row, member, fits, rfl⟩
  · rintro ⟨row, member, fits, rfl⟩
    exact ⟨row, ⟨member, fits⟩, rfl⟩

end

/-! ## Aggregates -/

instance : Std.IdempotentOp lesser where
  idempotent value := by
    cases value with
    | none => rfl
    | some value => simp [lesser]

/-- Which value is the least does not depend on how often each is there. -/
theorem least_dedup (cells : Multiset Cell) : least cells.dedup = least cells := by
  unfold least
  rw [← Multiset.fold_dedup_idem, Multiset.dedup_map_dedup_eq, Multiset.fold_dedup_idem]

theorem least_map_dedup {α : Type} [DecidableEq α] (items : Multiset α) (value : α → Cell) :
    least (items.dedup.map value) = least (items.map value) := by
  rw [← least_dedup, Multiset.dedup_map_dedup_eq, least_dedup]

theorem distinct_map_dedup {α : Type} [DecidableEq α] (items : Multiset α) (value : α → Cell) :
    distinct (items.dedup.map value) = distinct (items.map value) := by
  have same : ((items.dedup.map value).filter (· ≠ none)).dedup =
      ((items.map value).filter (· ≠ none)).dedup := by
    rw [Multiset.dedup_ext]
    simp
  rw [distinct, same, distinct]

/-- Different values are counted each. -/
theorem distinct_of_nodup {cells : Multiset Cell} (known : ∀ cell ∈ cells, cell ≠ none)
    (nodup : cells.Nodup) : distinct cells = some (.number cells.card) := by
  rw [distinct, Multiset.filter_eq_self.mpr known, nodup.dedup]

/-- Which value is the least depends on which values there are. -/
theorem least_congr {first second : Multiset Cell} (same : ∀ cell, cell ∈ first ↔ cell ∈ second) :
    least first = least second := by
  rw [← least_dedup first, ← least_dedup second, Multiset.dedup_ext.mpr fun {cell} => same cell]

/-- Folding keeps the smallest of the values, if there is one. -/
theorem fold_lesser (values : Multiset (Option Int)) :
    (values.fold lesser none = none → ∀ number, some number ∉ values) ∧
      ∀ number, values.fold lesser none = some number →
        some number ∈ values ∧ ∀ other, some other ∈ values → number ≤ other := by
  induction values using Multiset.induction_on with
  | empty => simp
  | cons first values inductionHypothesis =>
      rcases inductionHypothesis with ⟨ofNone, ofSome⟩
      rw [Multiset.fold_cons_left]
      cases first with
      | none => simpa [lesser] using ⟨ofNone, ofSome⟩
      | some first =>
          refine ⟨fun nothing => ?_, fun number found => ?_⟩
          · cases rest : values.fold lesser none <;> rw [rest] at nothing <;> cases nothing
          · simp only [Multiset.mem_cons, Option.some.injEq]
            cases rest : values.fold lesser none with
            | none =>
                rw [rest] at found
                cases found
                refine ⟨.inl rfl, fun other member => ?_⟩
                rcases member with rfl | later
                · exact le_rfl
                · exact absurd later (ofNone rest other)
            | some smallest =>
                rw [rest] at found
                rcases ofSome smallest rest with ⟨isThere, isSmallest⟩
                simp only [lesser, Option.some.injEq] at found
                split at found
                · rename_i smaller
                  cases found
                  refine ⟨.inl rfl, fun other member => ?_⟩
                  rcases member with rfl | later
                  · exact le_rfl
                  · exact smaller.trans (isSmallest other later)
                · rename_i notSmaller
                  cases found
                  refine ⟨.inr isThere, fun other member => ?_⟩
                  rcases member with rfl | later
                  · exact le_of_not_ge notSmaller
                  · exact isSmallest other later

theorem mem_numbers_iff {cells : Multiset Cell} {number : Int} :
    some number ∈ cells.map (·.bind Datum.number?) ↔ some (.number number) ∈ cells := by
  simp only [Multiset.mem_map, Option.bind_eq_some_iff]
  constructor
  · rintro ⟨cell, member, datum, rfl, isNumber⟩
    cases datum with
    | number value =>
        cases isNumber
        exact member
    | _ => cases isNumber
  · intro member
    exact ⟨_, member, _, rfl, rfl⟩

/-- There is no least number where there is no number. -/
theorem least_eq_none_iff {cells : Multiset Cell} :
    least cells = none ↔ ∀ number, some (.number number) ∉ cells := by
  simp only [← mem_numbers_iff]
  rw [least, Option.map_eq_none_iff]
  refine ⟨(fold_lesser _).1, fun nothing => ?_⟩
  cases found : (cells.map (·.bind Datum.number?)).fold lesser none with
  | none => rfl
  | some number => exact absurd ((fold_lesser _).2 number found).1 (nothing number)

theorem exists_number_of_least {cells : Multiset Cell} (known : least cells ≠ none) :
    ∃ number, least cells = some (.number number) := by
  rcases Option.ne_none_iff_exists.mp known with ⟨datum, isLeast⟩
  rcases Option.map_eq_some_iff.mp isLeast.symm with ⟨number, -, rfl⟩
  exact ⟨number, isLeast.symm⟩

/-- The least number is there, and none is smaller. -/
theorem least_eq_some_iff {cells : Multiset Cell} {number : Int} :
    least cells = some (.number number) ↔
      some (.number number) ∈ cells ∧
        ∀ other, some (.number other) ∈ cells → number ≤ other := by
  simp only [← mem_numbers_iff]
  rw [least, Option.map_eq_some_iff]
  constructor
  · rintro ⟨value, found, same⟩
    cases same
    exact (fold_lesser _).2 number found
  · rintro ⟨isThere, isLeast⟩
    cases found : (cells.map (·.bind Datum.number?)).fold lesser none with
    | none => exact absurd isThere ((fold_lesser _).1 found number)
    | some value =>
        rcases (fold_lesser _).2 value found with ⟨valueThere, valueLeast⟩
        have same : value = number :=
          le_antisymm (valueLeast number isThere) (isLeast value valueThere)
        exact ⟨value, rfl, congrArg Datum.number same⟩

/-! ## Groups -/

namespace Select

variable {select : Select} {db : Database}

/-- The rows of the source that take part in what is found, each of them once. -/
def participants (select : Select) (db : Database) (source : Multiset Row) : Multiset Row :=
  ((select.found db source).map (· select.source)).dedup

theorem found_eq_zero_iff {source : Multiset Row} :
    select.found db source = 0 ↔ select.participants db source = 0 := by
  rw [participants, Multiset.dedup_eq_zero, Multiset.map_eq_zero]

theorem least_found (source : Multiset Row) (column : Column) :
    least ((select.found db source).map (·.get ⟨select.source, column⟩)) =
      least ((select.participants db source).map (·.get column)) := by
  rw [participants, least_map_dedup, Multiset.map_map]
  rfl

theorem distinct_found (source : Multiset Row) (column : Column) :
    distinct ((select.found db source).map (·.get ⟨select.source, column⟩)) =
      distinct ((select.participants db source).map (·.get column)) := by
  rw [participants, distinct_map_dedup, Multiset.map_map]
  rfl

/-- Where nothing is found there is no group. -/
theorem shown_zero : select.shown 0 = 0 := by
  unfold shown
  split <;> rfl

/-- If each key belongs to one item, and all that is found with a key gives the row of its
item, then the rows of the items are given. -/
theorem shown_of_groups {α : Type} (grouped : select.grouping ≠ []) {found : Multiset Combination}
    {items : Multiset α} {key : α → List Cell} {row : α → Row} (keys : (items.map key).Nodup)
    (ofItem : ∀ combination ∈ found, ∃ item ∈ items, select.groupKey combination = key item)
    (foundAny : ∀ item ∈ items, ∃ combination ∈ found, select.groupKey combination = key item)
    (sameRow : ∀ item ∈ items, ∀ combination ∈ found, select.groupKey combination = key item →
      select.given found (found.filter fun other => select.groupKey other = key item) combination =
        row item) :
    select.shown found = items.map row := by
  let pair (combination : Combination) : List Cell × Row :=
    (select.groupKey combination,
      select.given found
        (found.filter fun other => select.groupKey other = select.groupKey combination) combination)
  have pairOf {item : α} (isItem : item ∈ items) {combination : Combination}
      (isFound : combination ∈ found) (sameKey : select.groupKey combination = key item) :
      pair combination = (key item, row item) := by
    simp only [pair, sameKey, sameRow item isItem combination isFound sameKey]
  have groups : (found.map pair).dedup = items.map fun item => (key item, row item) := by
    have nodup : (items.map fun item => (key item, row item)).Nodup := by
      apply Multiset.Nodup.of_map Prod.fst
      rw [Multiset.map_map]
      exact keys
    apply (Multiset.Nodup.ext (Multiset.nodup_dedup _) nodup).mpr
    intro group
    rw [Multiset.mem_dedup, Multiset.mem_map, Multiset.mem_map]
    constructor
    · rintro ⟨combination, isFound, rfl⟩
      rcases ofItem combination isFound with ⟨item, isItem, sameKey⟩
      exact ⟨item, isItem, (pairOf isItem isFound sameKey).symm⟩
    · rintro ⟨item, isItem, rfl⟩
      rcases foundAny item isItem with ⟨combination, isFound, sameKey⟩
      exact ⟨combination, isFound, pairOf isItem isFound sameKey⟩
  calc
    select.shown found = (found.map pair).dedup.map Prod.snd := if_neg grouped
    _ = items.map row := by
      rw [groups, Multiset.map_map]
      rfl

/-- If all that is found has one key and gives one row, then this row is given once. -/
theorem shown_of_one_group (grouped : select.grouping ≠ []) {found : Multiset Combination}
    (foundAny : found ≠ 0) {key : List Cell} {row : Row}
    (sameKey : ∀ combination ∈ found, select.groupKey combination = key)
    (sameRow : ∀ combination ∈ found, select.given found found combination = row) :
    select.shown found = {row} := by
  have all : (found.filter fun other => select.groupKey other = key) = found :=
    Multiset.filter_eq_self.mpr sameKey
  have oneKey : (({()} : Multiset Unit).map fun _ => key).Nodup := Multiset.nodup_singleton key
  have given : select.shown found = ({()} : Multiset Unit).map fun _ => row := by
    apply shown_of_groups grouped oneKey
    · intro combination isFound
      exact ⟨(), Multiset.mem_singleton_self (), sameKey combination isFound⟩
    · intro item _
      rcases Multiset.exists_mem_of_ne_zero foundAny with ⟨combination, isFound⟩
      exact ⟨combination, isFound, sameKey combination isFound⟩
    · intro item _ combination isFound _
      rw [all, sameRow combination isFound]
  exact given

/-- Without joins, the rows of the source are taken that pass. -/
theorem result_of_all {relation : Relation} (source : select.source = relation)
    (noJoins : select.joins = []) (ungrouped : select.grouping = [])
    (shows : select.projections = [.all relation]) (rows : Multiset Row) :
    select.result db rows =
      rows.filter fun row => select.Holds db (.single relation row) := by
  have start : joinAll db [] (rows.map (Combination.single relation)) =
      rows.map (Combination.single relation) := rfl
  unfold Select.result Select.shown Select.found Select.given
  rw [if_pos ungrouped, noJoins, source, shows, start, Multiset.filter_map, Multiset.map_map]
  refine (Multiset.map_congr rfl fun row _ => ?_).trans (Multiset.map_id _)
  simp [Projection.cells]

end Select

/-- The rows that take part in those that a page is cut from. -/
def Statement.participants (statement : Statement) (db : Database) : Multiset Row :=
  statement.inner.participants db (db.source 0 statement.inner.source)

end Sql
end TestQuery
