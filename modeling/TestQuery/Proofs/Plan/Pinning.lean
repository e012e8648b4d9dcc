import TestQuery.Proofs.Plan.Acceptance
import TestQuery.Proofs.Plan.Isolation
import TestQuery.Proofs.Sql.Grouping

namespace TestQuery
namespace Plan

open Sql
open Query (Purpose)

/-!
# A list and an enumeration pinned to one group

A query with a selector can list the testcases of one group, or enumerate the groups, of
which there is then one at most.  The list asks whether the session of a testcase is
among those that carry a label.  The enumeration joins the labels, in a relation of its
own for each tag, and tests the value that was joined.

A session may carry several labels with one key, or labels without a value, and a tag may
be selected more than once.  Then a testcase is joined several times or not at all.  Even
so both select the same testcases, and count them alike.
-/

/-! ## Sessions of a group -/

/-- What a key holds in the selected group: a tag holds the value, a session the id that
the value names. -/
def selectedCell : GroupKey → String → Cell
  | .session, value => (Uuid.ofText? value.toList).map .id
  | .tag _, value => some (.text value)

/-- The session has the selected value of a key. -/
def Carries (db : Database) (session : Cell) : GroupKey → String → Prop
  | .session, value => session ≠ none ∧ session = selectedCell .session value
  | .tag tag, value => session ≠ none ∧ session ∈ db.sessionsLabelled tag (some value)

abbrev testcaseSession : ColumnRef :=
  Table.testcases.col .sessionId

section

variable {db : Database} {number : Nat} {keys : List GroupKey} {values : List String}
  {pins : List Condition}

theorem sessionPin_iff {value : String} {id : Uuid} (named : Uuid.ofText? value.toList = some id)
    (combination : Combination) :
    (Condition.test (.compare testcaseSession .equal (.id id))).truth db combination = .yes ↔
      Carries db (combination.get testcaseSession) .session value := by
  rw [Carries, selectedCell, named]
  exact Cell.compare_equal_eq_yes_iff

/-- The pins of a list hold of the testcases whose session is in the group. -/
theorem listPins_iff (pinned : Pinned .testcases number keys values pins)
    (combination : Combination) :
    (∀ pin ∈ pins, pin.truth db combination = .yes) ↔
      List.Forall₂ (Carries db (combination.get testcaseSession)) keys values := by
  induction pinned with
  | nil => simp
  | session named others inductionHypothesis =>
      rw [List.forall_mem_cons, List.forall₂_cons, inductionHypothesis]
      exact and_congr_left' (sessionPin_iff named combination)
  | tag others inductionHypothesis =>
      rw [List.forall_mem_cons, List.forall₂_cons, inductionHypothesis]
      exact and_congr_left' Cell.among_eq_yes_iff

/-! ## Joined labels -/

/-- Labels are joined in relations numbered from `number` on. -/
theorem keyJoins_apart {relation : Relation}
    (apart : ∀ later, number ≤ later → relation ≠ .label later) (keys : List GroupKey) :
    ∀ join ∈ keyJoins number keys, relation ≠ join.relation := by
  induction keys generalizing number with
  | nil => exact List.forall_mem_nil _
  | cons key keys inductionHypothesis =>
      cases key with
      | session => exact inductionHypothesis apart
      | tag tag =>
          refine List.forall_mem_cons.mpr ⟨apart number (le_refl number), inductionHypothesis ?_⟩
          intro later after
          exact apart later (Nat.le_of_succ_le after)

/-- The testcase stays when labels are joined to it. -/
theorem testcase_of_mem_joinAll {first last : Combination}
    (member : last ∈ joinAll db (keyJoins number keys) {first}) :
    last (.table .testcases) = first (.table .testcases) := by
  have apart : ∀ later, number ≤ later → Relation.table .testcases ≠ .label later := nofun
  exact eq_of_mem_joinAll (keyJoins_apart apart keys) member

/-- A label stays when those of later tags are joined. -/
theorem label_of_mem_joinAll {first last : Combination} {label : Row}
    (member : last ∈ joinAll db (keyJoins (number + 1) keys) {first.set (.label number) label}) :
    last (.label number) = label := by
  have apart : ∀ later, number + 1 ≤ later → Relation.label number ≠ .label later := by
    rintro later after ⟨⟩
    omega
  rw [eq_of_mem_joinAll (keyJoins_apart apart keys) member, Combination.set_same]

theorem session_set_label (first : Combination) (label : Row) :
    (first.set (.label number) label).get testcaseSession = first.get testcaseSession :=
  congrArg (Row.get · _) (Combination.set_other first label nofun)

/-- The labels that are joined carry the tag and belong to the session of the testcase. -/
theorem labelJoin_fits_iff {tag : String} {first : Combination} {label : Row} :
    (labelJoin number tag).Fits db first label ↔
      (first.get testcaseSession ≠ none ∧ first.get testcaseSession = label.get .sessionId) ∧
        label.get .key = some (.text tag) := by
  have joined (column : Column) : (first.set (.label number) label).get ⟨.label number, column⟩ =
      label.get column :=
    congrArg (Row.get · column) (Combination.set_same first (.label number) label)
  change Logic.threeValued.all
    [((first.set (.label number) label).get testcaseSession).compare .equal
        ((first.set (.label number) label).get ⟨.label number, .sessionId⟩),
      ((first.set (.label number) label).get ⟨.label number, .key⟩).compare .equal
        (some (.text tag))] = .yes ↔ _
  rw [all_eq_yes_iff, List.forall_mem_cons, List.forall_mem_singleton, session_set_label,
    joined, joined, Cell.compare_equal_eq_yes_iff, Cell.compare_equal_eq_yes_iff]
  apply and_congr_right'
  constructor
  · exact And.right
  · intro hasKey
    rw [hasKey]
    exact ⟨nofun, rfl⟩

/-- The value of a joined label is what a pin tests. -/
theorem tagPin_iff {tag value : String} {combination : Combination} :
    (Condition.test (tagTest .groups number tag value)).truth db combination = .yes ↔
      combination.get ⟨.label number, .value⟩ = some (.text value) := by
  refine Cell.compare_equal_eq_yes_iff.trans ⟨And.right, ?_⟩
  intro hasValue
  rw [hasValue]
  exact ⟨nofun, rfl⟩

/-- The labels of one tag can be joined so that the pin holds, if the session carries the
selected value. -/
theorem exists_tagPin_iff {tag value : String} {first : Combination} :
    (∃ label ∈ db.rows .labels, (labelJoin number tag).Fits db first label ∧
        label.get .value = some (.text value)) ↔
      Carries db (first.get testcaseSession) (.tag tag) value := by
  rw [Carries, Database.mem_sessionsLabelled]
  constructor
  · rintro ⟨label, member, fits, hasValue⟩
    rcases labelJoin_fits_iff.mp fits with ⟨⟨known, same⟩, hasKey⟩
    exact ⟨known, label, member, hasKey, hasValue, same.symm⟩
  · rintro ⟨known, label, member, hasKey, hasValue, same⟩
    exact ⟨label, member, labelJoin_fits_iff.mpr ⟨⟨known, same.symm⟩, hasKey⟩, hasValue⟩

/-- The labels of all tags can be joined so that the pins of an enumeration hold, if the
session is in the group. -/
theorem groupPins_iff (pinned : Pinned .groups number keys values pins) (first : Combination) :
    (∃ last ∈ joinAll db (keyJoins number keys) {first},
        ∀ pin ∈ pins, pin.truth db last = .yes) ↔
      List.Forall₂ (Carries db (first.get testcaseSession)) keys values := by
  induction pinned generalizing first with
  | nil =>
      have nothingJoined (number : Nat) : joinAll db (keyJoins number []) {first} = {first} := rfl
      simp [nothingJoined]
  | @session number keys value values id pins named others inductionHypothesis =>
      rw [List.forall₂_cons, ← inductionHypothesis first]
      have sameSession {last : Combination}
          (member : last ∈ joinAll db (keyJoins number keys) {first}) :
          last.get testcaseSession = first.get testcaseSession :=
        congrArg (Row.get · _) (testcase_of_mem_joinAll member)
      constructor
      · rintro ⟨last, member, passed⟩
        rcases List.forall_mem_cons.mp passed with ⟨here, later⟩
        refine ⟨?_, last, member, later⟩
        rw [← sameSession member]
        exact (sessionPin_iff named last).mp here
      · rintro ⟨carries, last, member, later⟩
        rw [← sameSession member] at carries
        refine ⟨last, member, List.forall_mem_cons.mpr ⟨?_, later⟩⟩
        exact (sessionPin_iff named last).mpr carries
  | @tag number keys tag value values pins others inductionHypothesis =>
      rw [List.forall₂_cons]
      constructor
      · rintro ⟨last, member, passed⟩
        rcases mem_joinAll_cons.mp member with ⟨middle, added, joined⟩
        rcases (Join.mem_extend_inner rfl).mp added with ⟨label, isLabel, fits, rfl⟩
        rcases List.forall_mem_cons.mp passed with ⟨here, later⟩
        have hasValue := tagPin_iff.mp here
        rw [Combination.get, label_of_mem_joinAll joined] at hasValue
        refine ⟨exists_tagPin_iff.mp ⟨label, isLabel, fits, hasValue⟩, ?_⟩
        rw [← session_set_label first label]
        exact (inductionHypothesis _).mp ⟨last, joined, later⟩
      · rintro ⟨carries, others⟩
        rcases exists_tagPin_iff.mpr carries with ⟨label, isLabel, fits, hasValue⟩
        rw [← session_set_label first label] at others
        rcases (inductionHypothesis _).mpr others with ⟨last, joined, later⟩
        have added := (Join.mem_extend_inner rfl).mpr ⟨label, isLabel, fits, rfl⟩
        refine ⟨last, mem_joinAll_cons.mpr ⟨_, added, joined⟩, ?_⟩
        refine List.forall_mem_cons.mpr ⟨tagPin_iff.mpr ?_, later⟩
        rw [Combination.get, label_of_mem_joinAll joined]
        exact hasValue

/-- Where the pins of an enumeration hold, the keys hold what is selected. -/
theorem keys_of_groupPins (pinned : Pinned .groups number keys values pins) {last : Combination}
    (passed : ∀ pin ∈ pins, pin.truth db last = .yes) :
    (keyColumns number keys).map last.get = List.zipWith selectedCell keys values := by
  induction pinned with
  | nil => rfl
  | session named others inductionHypothesis =>
      rcases List.forall_mem_cons.mp passed with ⟨here, later⟩
      rw [keyColumns, List.map_cons, List.zipWith_cons_cons, inductionHypothesis later]
      exact congrArg (· :: _) ((sessionPin_iff named last).mp here).2
  | tag others inductionHypothesis =>
      rcases List.forall_mem_cons.mp passed with ⟨here, later⟩
      rw [keyColumns, List.map_cons, List.zipWith_cons_cons, inductionHypothesis later]
      exact congrArg (· :: _) (tagPin_iff.mp here)

theorem selectedCells_known {purpose : Purpose} (pinned : Pinned purpose number keys values pins) :
    ∀ cell ∈ List.zipWith selectedCell keys values, cell ≠ none := by
  induction pinned with
  | nil => exact List.forall_mem_nil _
  | session named others inductionHypothesis =>
      refine List.forall_mem_cons.mpr ⟨?_, inductionHypothesis⟩
      rw [selectedCell, named]
      nofun
  | tag others inductionHypothesis => exact List.forall_mem_cons.mpr ⟨nofun, inductionHypothesis⟩

end

/-! ## The testcases of both -/

section

variable {db : Database} {owner : Uuid} {query : Query}

/-- The conditions apart from the pins. -/
def unpinned (owner : Uuid) (query : Query) (purpose : Purpose) : List Condition :=
  scope owner (scopeTable purpose) query ++ chainOf purpose query

theorem rowsOf_holds_iff {purpose : Purpose} {pins : List Condition} {combination : Combination} :
    (rowsOf query (conditionsOf owner query purpose pins) purpose).Holds db combination ↔
      (∀ condition ∈ unpinned owner query purpose, condition.truth db combination = .yes) ∧
        ∀ pin ∈ pins, pin.truth db combination = .yes := by
  rw [Select.holds_iff, rowsOf_conditions, unpinned]
  simp only [mem_conditionsOf, List.mem_append]
  constructor
  · intro passed
    refine ⟨fun condition member => ?_, fun pin isPin => passed pin (.inr (.inr isPin))⟩
    rcases member with ofScope | ofChain
    · exact passed condition (.inl ofScope)
    · exact passed condition (.inr (.inl ofChain))
  · rintro ⟨passed, pinsPassed⟩ condition (ofScope | ofChain | isPin)
    · exact passed condition (.inl ofScope)
    · exact passed condition (.inr ofChain)
    · exact pinsPassed condition isPin

/-- Apart from the pins, all conditions are about the testcase. -/
theorem unpinned_congr {first second : Combination}
    (same : first (.table .testcases) = second (.table .testcases)) :
    (∀ condition ∈ unpinned owner query .testcases, condition.truth db first = .yes) ↔
      ∀ condition ∈ unpinned owner query .testcases, condition.truth db second = .yes := by
  refine forall₂_congr fun condition member => ?_
  have made : ∀ test ∈ condition.tests, Made owner .testcases test := by
    rcases List.mem_append.mp member with ofScope | ofChain
    · exact made_of_scope ofScope
    · exact made_of_chainOf ofChain
  rw [Condition.truth_congr fun test isTest => ?_]
  rw [(made test isTest).relation_of_testcases]
  exact same

variable {values : List String} {listed enumerated : List Condition}

/-- The selection of a list, and that of an enumeration. -/
abbrev listSelect (owner : Uuid) (query : Query) (listed : List Condition) : Select :=
  rowsOf query (conditionsOf owner query .testcases listed) .testcases

abbrev groupSelect (owner : Uuid) (query : Query) (enumerated : List Condition) : Select :=
  rowsOf query (conditionsOf owner query .groups enumerated) .groups

theorem result_listSelect (db : Database) :
    (listSelect owner query listed).result db (db.rows .testcases) =
      (db.rows .testcases).filter fun testcase =>
        (listSelect owner query listed).Holds db (.single (.table .testcases) testcase) :=
  Select.result_of_all rfl rfl rfl rfl _

theorem mem_listSelect_iff (pinned : Pinned .testcases 0 (keysOf query) values listed)
    {testcase : Row} :
    testcase ∈ (listSelect owner query listed).result db (db.rows .testcases) ↔
      testcase ∈ db.rows .testcases ∧
        (∀ condition ∈ unpinned owner query .testcases,
          condition.truth db (.single (.table .testcases) testcase) = .yes) ∧
        List.Forall₂ (Carries db ((Combination.single (.table .testcases) testcase).get
          testcaseSession)) (keysOf query) values := by
  rw [result_listSelect, Multiset.mem_filter, rowsOf_holds_iff, listPins_iff pinned]

/-- A testcase takes part in the enumeration if it is in the list. -/
theorem mem_participants_iff (listPinned : Pinned .testcases 0 (keysOf query) values listed)
    (groupPinned : Pinned .groups 0 (keysOf query) values enumerated) {testcase : Row} :
    testcase ∈ (groupSelect owner query enumerated).participants db (db.rows .testcases) ↔
      testcase ∈ (listSelect owner query listed).result db (db.rows .testcases) := by
  rw [mem_listSelect_iff listPinned, ← groupPins_iff groupPinned, Select.participants,
    Multiset.mem_dedup, Multiset.mem_map]
  constructor
  · rintro ⟨last, isFound, isTestcase⟩
    rcases Multiset.mem_filter.mp isFound with ⟨member, holds⟩
    rcases mem_joinAll_iff.mp member with ⟨first, isFirst, joined⟩
    rcases Multiset.mem_map.mp isFirst with ⟨row, isRow, rfl⟩
    have same := testcase_of_mem_joinAll joined
    have isSame : row = testcase :=
      ((Combination.single_same _ row).symm.trans same.symm).trans isTestcase
    subst isSame
    rcases rowsOf_holds_iff.mp holds with ⟨passed, pinsPassed⟩
    exact ⟨isRow, (unpinned_congr same).mp passed, last, joined, pinsPassed⟩
  · rintro ⟨isRow, passed, last, joined, pinsPassed⟩
    have same := testcase_of_mem_joinAll joined
    have holds : (groupSelect owner query enumerated).Holds db last :=
      rowsOf_holds_iff.mpr ⟨(unpinned_congr same).mpr passed, pinsPassed⟩
    have member := mem_joinAll_iff.mpr ⟨_, Multiset.mem_map_of_mem _ isRow, joined⟩
    exact ⟨last, Multiset.mem_filter.mpr ⟨member, holds⟩,
      same.trans (Combination.single_same _ testcase)⟩

/-- Every testcase has an id of its own. -/
structure Identified (db : Database) : Prop where
  known : ∀ testcase ∈ db.rows .testcases, testcase.get .id ≠ none
  unique : ((db.rows .testcases).map (·.get .id)).Nodup

theorem Identified.nodup_ids (identified : Identified db) (owner : Uuid) (query : Query)
    (listed : List Condition) :
    (((listSelect owner query listed).result db (db.rows .testcases)).map (·.get .id)).Nodup := by
  rw [result_listSelect]
  exact Multiset.nodup_of_le (Multiset.map_le_map (Multiset.filter_le _ _)) identified.unique

theorem participants_eq (identified : Identified db) (owner : Uuid)
    (listPinned : Pinned .testcases 0 (keysOf query) values listed)
    (groupPinned : Pinned .groups 0 (keysOf query) values enumerated) :
    (groupSelect owner query enumerated).participants db (db.rows .testcases) =
      (listSelect owner query listed).result db (db.rows .testcases) := by
  have nodup := Multiset.Nodup.of_map _ (identified.nodup_ids owner query listed)
  exact (Multiset.Nodup.ext (Multiset.nodup_dedup _) nodup).mpr fun testcase =>
    mem_participants_iff listPinned groupPinned

/-! ## The one group -/

def worstStatus (testcases : Multiset Row) : Cell :=
  least (testcases.map (·.get .status))

/-- The row of the selected group, which has the given testcases. -/
def groupRow (keys : List GroupKey) (values : List String) (testcases : Multiset Row) : Row :=
  (List.zipWith selectedCell keys values).mapIdx
      (fun position cell => ((Column.group position).spelling, cell)) ++
    [("aggregated_status", worstStatus testcases),
      ("testcase_count", some (.number testcases.card))]

theorem flatMap_renamed (found group : Multiset Combination) (last : Combination)
    (columns : List ColumnRef) :
    (columns.mapIdx fun position column => Projection.renamed column (.group position)).flatMap
        (Projection.cells found group last) =
      (columns.map last.get).mapIdx fun position cell =>
        ((Column.group position).spelling, cell) := by
  rw [List.mapIdx_eq_zipIdx_map, List.mapIdx_eq_zipIdx_map, List.zipIdx_map, List.map_map,
    List.flatMap_map, List.map_eq_flatMap]
  rfl

/-- The testcases of a list are counted by their ids. -/
theorem distinct_ids (identified : Identified db) (owner : Uuid) (query : Query)
    (listed : List Condition) :
    distinct (((listSelect owner query listed).result db (db.rows .testcases)).map (·.get .id)) =
      some (.number ((listSelect owner query listed).result db (db.rows .testcases)).card) := by
  rw [distinct_of_nodup ?_ (identified.nodup_ids owner query listed), Multiset.card_map]
  refine Multiset.forall_mem_map_iff.mpr fun testcase member => ?_
  rw [result_listSelect] at member
  exact identified.known testcase (Multiset.mem_of_mem_filter member)

/-- The testcases that are found in the group give one row. -/
theorem given_groupSelect {testcases : Multiset Row}
    (takePart : (groupSelect owner query enumerated).participants db (db.rows .testcases) =
      testcases)
    (counted : distinct (testcases.map (·.get .id)) = some (.number testcases.card))
    {last : Combination}
    (hasKeys : (keyColumns 0 (keysOf query)).map last.get =
      List.zipWith selectedCell (keysOf query) values) :
    (groupSelect owner query enumerated).given
        ((groupSelect owner query enumerated).found db (db.rows .testcases))
        ((groupSelect owner query enumerated).found db (db.rows .testcases)) last =
      groupRow (keysOf query) values testcases := by
  have worst : least (((groupSelect owner query enumerated).found db (db.rows .testcases)).map
      (·.get (Table.testcases.col .status))) = worstStatus testcases := by
    rw [worstStatus, ← takePart]
    exact Select.least_found _ _
  have count : distinct (((groupSelect owner query enumerated).found db (db.rows .testcases)).map
      (·.get (Table.testcases.col .id))) = some (.number testcases.card) := by
    rw [← counted, ← takePart]
    exact Select.distinct_found _ _
  rw [groupRow, ← hasKeys, ← worst, ← count]
  refine List.flatMap_append.trans ?_
  rw [flatMap_renamed]
  rfl

theorem keyColumns_ne_nil {number : Nat} {keys : List GroupKey} (keyed : keys ≠ []) :
    keyColumns number keys ≠ [] := by
  cases keys with
  | nil => exact absurd rfl keyed
  | cons key keys => cases key <;> nofun

/-- An enumeration that is pinned gives one group at most. -/
theorem result_groupSelect (keyed : keysOf query ≠ [])
    (pinned : Pinned .groups 0 (keysOf query) values enumerated) {testcases : Multiset Row}
    (takePart : (groupSelect owner query enumerated).participants db (db.rows .testcases) =
      testcases)
    (counted : distinct (testcases.map (·.get .id)) = some (.number testcases.card)) :
    (groupSelect owner query enumerated).result db (db.rows .testcases) =
      if testcases = 0 then 0 else {groupRow (keysOf query) values testcases} := by
  have found := @Select.found_eq_zero_iff (groupSelect owner query enumerated) db
    (db.rows .testcases)
  rw [takePart] at found
  unfold Select.result
  by_cases nothing : testcases = 0
  · rw [if_pos nothing, found.mpr nothing, Select.shown_zero]
  · rw [if_neg nothing]
    have hasKeys : ∀ last ∈ (groupSelect owner query enumerated).found db (db.rows .testcases),
        (keyColumns 0 (keysOf query)).map last.get =
          List.zipWith selectedCell (keysOf query) values := by
      intro last isFound
      have holds := (Multiset.mem_filter.mp isFound).2
      exact keys_of_groupPins pinned (rowsOf_holds_iff.mp holds).2
    have grouped : (groupSelect owner query enumerated).grouping ≠ [] :=
      keyColumns_ne_nil keyed
    exact Select.shown_of_one_group grouped (fun noneFound => nothing (found.mp noneFound)) hasKeys
      fun last isFound => given_groupSelect takePart counted (hasKeys last isFound)

end

/-! ## Agreement -/

/-- A page shows the rows that it is cut from, each with their number and with what else it
says of them all. -/
theorem result_pageSelect (db : Database) (rows : Multiset Row) (page : Page)
    (projections : List Projection) (ordering : List (ColumnRef × Direction)) :
    (pageSelect page projections ordering).result db rows =
      rows.map fun row =>
        row ++ (Projection.countRows .totalCount :: projections).flatMap
          (Projection.cells (rows.map (.single .page)) {.single .page row}
            (.single .page row)) := by
  have ungrouped : (pageSelect page projections ordering).grouping = [] := rfl
  unfold Select.result
  rw [Select.found_of_bare rfl rfl]
  unfold Select.shown
  rw [if_pos ungrouped, Multiset.map_map]
  refine Multiset.map_congr rfl fun row _ => ?_
  exact congrArg (· ++ _) (Combination.single_same .page row)

/-- What a list and an enumeration have in common when both are pinned to one group. -/
structure Agree (db : Database) (keys : List GroupKey) (values : List String)
    (list enumeration : Statement) : Prop where
  /-- The testcases that the list is cut from are those that the groups are made of. -/
  takePart : enumeration.participants db = list.innerRows db
  /-- The list says of each testcase how many there are, and their worst status. -/
  listed : list.rows db = (list.innerRows db).map fun testcase =>
    testcase ++ [("total_count", some (.number (list.innerRows db).card)),
      ("aggregated_status", worstStatus (list.innerRows db))]
  /-- There is one group, with as many testcases and the same status, or there is none. -/
  grouped : enumeration.innerRows db =
    if list.innerRows db = 0 then 0 else {groupRow keys values (list.innerRows db)}
  enumerated : enumeration.rows db =
    if list.innerRows db = 0 then 0
    else {groupRow keys values (list.innerRows db) ++ [("total_count", some (.number 1))]}
  /-- The group has a value for each key. -/
  known : ∀ cell ∈ List.zipWith selectedCell keys values, cell ≠ none

theorem agree_of_pinned {db : Database} (identified : Identified db) {owner : Uuid} {query : Query}
    {values : List String} {listed enumerated : List Condition} (keyed : keysOf query ≠ [])
    (listPinned : Pinned .testcases 0 (keysOf query) values listed)
    (groupPinned : Pinned .groups 0 (keysOf query) values enumerated)
    (settings : Settings) (page : Page) :
    Agree db (keysOf query) values
      (assembled settings owner query .testcases page listed).statement
      (assembled settings owner query .groups page enumerated).statement := by
  have takePart := participants_eq identified owner listPinned groupPinned
  have counted := distinct_ids identified owner query listed
  have grouped := result_groupSelect keyed groupPinned takePart counted
  refine ⟨takePart, ?_, grouped, ?_, selectedCells_known listPinned⟩
  · refine (result_pageSelect db _ page _ _).trans (Multiset.map_congr rfl fun testcase _ => ?_)
    simp only [List.flatMap_cons, List.flatMap_nil, Projection.cells, Multiset.card_map,
      Multiset.map_map]
    rfl
  · change (pageSelect page [] _).result db
      ((groupSelect owner query enumerated).result db (db.rows .testcases)) = _
    rw [result_pageSelect, grouped]
    by_cases nothing : (listSelect owner query listed).result db (db.rows .testcases) = 0
    · rw [if_pos nothing]
      exact (if_pos nothing).symm
    · rw [if_neg nothing]
      exact (if_neg nothing).symm

/-- A query with keys that is planned for one purpose is planned for every other that it
suits. -/
theorem planned_of_planned {settings : Settings} {owner : Uuid} {query : Query}
    {purpose other : Purpose} {plan : Plan} (keyed : keysOf query ≠ [])
    (planned : ofQuery settings owner query purpose = .ok plan)
    (suitsAlike : query.check other = query.check purpose) :
    ∃ otherPlan, ofQuery settings owner query other = .ok otherPlan := by
  rcases assembled_of_ok planned with ⟨page, pins, paged, pinned, -, -⟩
  have suits := check_of_pinsOf (fun _ => keyed) pinned
  have nothingMisnamed := (refusesOnly_pinsOf suits).none_of_ok pinned
  have refuses := refusesOnly_pinsOf (suitsAlike.trans suits)
  rw [nothingMisnamed] at refuses
  rcases refuses with ⟨otherPins, otherPinned⟩
  rw [ofQuery_eq_assembled (leadsAlone_of_ok planned) (fun _ => keyed), paged, otherPinned]
  exact ⟨_, rfl⟩

/-- A query with keys and a selector can be listed if it can be enumerated.  The list and
the enumeration have the same testcases, the same number of them and the same worst
status, and the enumeration has no group but the selected one. -/
theorem pinned_list_and_enumeration_agree {query : Query} {key : GroupKey} {keys : List GroupKey}
    {values : List String} (grouping : query.groupBy = some (key :: keys))
    (selected : query.selector = some values) (settings : Settings) (owner : Uuid) :
    ((∃ list, ofQuery settings owner query .testcases = .ok list) ↔
        ∃ enumeration, ofQuery settings owner query .groups = .ok enumeration) ∧
      ∀ list enumeration, ofQuery settings owner query .testcases = .ok list →
        ofQuery settings owner query .groups = .ok enumeration → ∀ db, Identified db →
          Agree db (key :: keys) values list.statement enumeration.statement := by
  have isKeys : keysOf query = key :: keys := by
    rw [keysOf, grouping, Option.getD_some]
  have isSelection : selection query = (keysOf query, values) := by
    rw [selection, grouping, selected, isKeys]
  have suitsAlike : query.check .groups = query.check .testcases := by
    unfold Query.check Query.checkGroups Query.checkList
    rw [grouping, selected]
    rfl
  have keyed : keysOf query ≠ [] := by
    rw [isKeys]
    exact List.cons_ne_nil key keys
  refine ⟨⟨?_, ?_⟩, ?_⟩
  · rintro ⟨list, planned⟩
    exact planned_of_planned keyed planned suitsAlike
  · rintro ⟨enumeration, planned⟩
    exact planned_of_planned keyed planned suitsAlike.symm
  · intro list enumeration listPlanned groupsPlanned db identified
    rcases assembled_of_ok listPlanned with ⟨page, listed, paged, listOk, -, rfl⟩
    rcases assembled_of_ok groupsPlanned with
      ⟨groupPage, enumerated, groupPaged, groupsOk, -, rfl⟩
    cases paged.symm.trans groupPaged
    have listPinned := pinned_of_ok listOk
    have groupPinned := pinned_of_ok groupsOk
    rw [isSelection] at listPinned groupPinned
    rw [← isKeys]
    exact agree_of_pinned identified keyed listPinned groupPinned settings page

/-! ## A session with several labels -/

def outcomeRow (id session : UInt8) (status : Int) : Row :=
  [("id", some (.id (numbered id))), ("session_id", some (.id (numbered session))),
    ("user_id", some (.id (numbered 0))), ("status", some (.number status))]

def valueRow (session : UInt8) (value : Option String) : Row :=
  [("session_id", some (.id (numbered session))), ("user_id", some (.id (numbered 0))),
    ("key", some (.text "os")), ("value", value.map .text)]

/-- The first session carries one value twice, another one, and none. -/
def relabelled : Database where
  rows
    | .sessions => [sessionRow 1 0, sessionRow 2 0]
    | .testcases => [outcomeRow 1 1 3, outcomeRow 2 1 2, outcomeRow 3 2 1]
    | .labels => [valueRow 1 (some "linux"), valueRow 1 none, valueRow 1 (some "mac"),
        valueRow 1 (some "linux"), valueRow 2 (some "mac")]

/-- Two values of one tag, and the session that carries both. -/
def repeatedQuery : Query where
  groupBy := some [.tag "os", .session, .tag "os"]
  selector := some ["linux", "01010101-0101-0101-0101-010101010101", "mac"]

theorem identified_relabelled : Identified relabelled :=
  ⟨by decide, by decide⟩

/-- Each of the two testcases is joined twice, and both are counted once. -/
theorem pinned_list_and_enumeration_agree_relabelled :
    Identified relabelled ∧ ∃ list enumeration,
      ofQuery {} (numbered 0) repeatedQuery .testcases = .ok list ∧
        ofQuery {} (numbered 0) repeatedQuery .groups = .ok enumeration ∧
        Agree relabelled [.tag "os", .session, .tag "os"]
          ["linux", "01010101-0101-0101-0101-010101010101", "mac"]
          list.statement enumeration.statement ∧
        (enumeration.statement.inner.found relabelled (relabelled.rows .testcases)).card = 4 ∧
        enumeration.statement.rows relabelled =
          {[("group_0", some (.text "linux")), ("group_1", some (.id (numbered 1))),
            ("group_2", some (.text "mac")), ("aggregated_status", some (.number 2)),
            ("testcase_count", some (.number 2)), ("total_count", some (.number 1))]} := by
  have grouping : repeatedQuery.groupBy = some [.tag "os", .session, .tag "os"] := rfl
  have agree := (pinned_list_and_enumeration_agree grouping rfl {} (numbered 0)).2
  have listPlanned : ofQuery {} (numbered 0) repeatedQuery .testcases = .ok _ := rfl
  have groupsPlanned : ofQuery {} (numbered 0) repeatedQuery .groups = .ok _ := rfl
  exact ⟨identified_relabelled, _, _, listPlanned, groupsPlanned,
    agree _ _ listPlanned groupsPlanned relabelled identified_relabelled, by decide, by decide⟩

end Plan
end TestQuery
