import TestQuery.Proofs.Plan.Text

namespace TestQuery
namespace Plan

open Sql
open Fragment (written written_append written_cons)

/-!
# How the keys of an enumeration are wired

A key of an enumeration is met in five places of its statement: its value is selected, the
groups are told apart by it, the rows and the page are ordered by it, and a selector may pin
it.  A tag needs labels of its own besides, which are joined under a name with a number, and
that number counts the tags only.  So a key has two numbers, its position and the number of
tags before it, and each of the five places needs the right one.

`eachKey` gives both numbers of every key.  The whole text of an enumeration is told by it,
and the planning, which counts while it goes through the keys, writes that text.
-/

/-! ## Keys and their numbers -/

def isTag : GroupKey → Bool
  | .session => false
  | .tag _ => true

def tagsBefore (keys : List GroupKey) (position : Nat) : Nat :=
  (keys.take position).countP isTag

/-- What is made of each key by its position and the number of tags before it. -/
def eachKey {α : Type} (keys : List GroupKey) (make : Nat → Nat → GroupKey → α) : List α :=
  keys.mapIdx fun position key => make position (tagsBefore keys position) key

theorem tagsBefore_succ (key : GroupKey) (keys : List GroupKey) (position : Nat) :
    tagsBefore (key :: keys) (position + 1) = tagsBefore keys position + (isTag key).toNat := by
  rw [tagsBefore, List.take_succ_cons, List.countP_cons]
  cases key <;> rfl

theorem eachKey_cons {α : Type} (key : GroupKey) (keys : List GroupKey)
    (make : Nat → Nat → GroupKey → α) :
    eachKey (key :: keys) make = make 0 0 key ::
      eachKey keys fun position number => make (position + 1) (number + (isTag key).toNat) := by
  rw [eachKey, List.mapIdx_cons]
  simp only [tagsBefore_succ]
  rfl

theorem map_eachKey {α β : Type} (keys : List GroupKey) (make : Nat → Nat → GroupKey → α)
    (change : α → β) :
    (eachKey keys make).map change =
      eachKey keys fun position number key => change (make position number key) := by
  apply List.ext_getElem?
  intro position
  simp only [eachKey, List.getElem?_map, List.getElem?_mapIdx, Option.map_map]
  rfl

theorem eachKey_ne_nil {α : Type} {keys : List GroupKey} (nonempty : keys ≠ [])
    (make : Nat → Nat → GroupKey → α) : eachKey keys make ≠ [] :=
  fun none => nonempty (List.mapIdx_eq_nil_iff.mp none)

/-! ## The text of an enumeration -/

section

variable (settings : Settings)

/-- The column that has the value of a key, `number` tags being before it. -/
def keyText (number : Nat) : GroupKey → List Lexeme
  | .session => Lexeme.column settings.tables.testcases "session_id"
  | .tag _ => Lexeme.column s!"l{number}" "value"

/-- The labels that are joined for a key. -/
def joinText (number : Nat) : GroupKey → List Lexeme
  | .session => []
  | .tag tag =>
    [.word "INNER", .word "JOIN", .name settings.tables.labels, .word "AS", .name s!"l{number}",
      .word "ON"] ++ Lexeme.column settings.tables.testcases "session_id" ++ [.sign "="] ++
    Lexeme.column s!"l{number}" "session_id" ++ [.word "AND"] ++
    Lexeme.column s!"l{number}" "key" ++ [.sign "=", .value (.string (some tag))]

/-- The value that a key is pinned to. -/
def pinValue? (key : GroupKey) (value : String) : Option Value :=
  match key with
  | .session => (Uuid.ofText? value.toList).map settings.dialect.uuidValue
  | .tag _ => some (.string (some value))

/-- The condition that pins a key. -/
def pinText? (number : Nat) (key : GroupKey) (value : String) : Option (List Lexeme) :=
  (pinValue? settings key value).map fun content =>
    keyText settings number key ++ [.sign "=", .value content]

/-- The value of a key under the name of its position. -/
def renamedText (position number : Nat) (key : GroupKey) : List Lexeme :=
  keyText settings number key ++ [.word "AS", .name s!"group_{position}"]

def statusText : List Lexeme :=
  .word "MIN" :: .opening :: Lexeme.column settings.tables.testcases "status" ++
    [.closing, .word "AS", .name "aggregated_status"]

def countText : List Lexeme :=
  .word "COUNT" :: .opening :: .word "DISTINCT" ::
      Lexeme.column settings.tables.testcases "id" ++
    [.closing, .word "AS", .name "testcase_count"]

/-- What the selection of the groups gives. -/
def groupProjectionTexts (keys : List GroupKey) : List (List Lexeme) :=
  eachKey keys (renamedText settings) ++ [statusText settings, countText settings]

/-- The selection of the groups, with the conditions of their rows. -/
def groupsText (keys : List GroupKey) (conditions : List (List Lexeme)) : List Lexeme :=
  .word "SELECT" :: Lexeme.listed (groupProjectionTexts settings keys) ++
    [.word "FROM", .name settings.tables.testcases] ++
    (eachKey keys fun _ number key => joinText settings number key).flatten ++
    .word "WHERE" :: List.intercalate [.word "AND"] conditions ++
    Lexeme.groupedBy (eachKey keys fun _ number key => keyText settings number key) ++
    Lexeme.orderedBy (eachKey keys fun _ number key => keyText settings number key ++ [.word "ASC"])

def groupPageText (keys : List GroupKey) (page : Page) : List Lexeme :=
  .word "SELECT" :: Lexeme.listed
      [[.name "cte", .sign ".", .sign "*"],
        [.word "COUNT", .opening, .sign "*", .closing, .word "OVER", .opening, .closing,
          .word "AS", .name "total_count"]] ++
    [.word "FROM", .name "cte"] ++
    Lexeme.orderedBy (eachKey keys fun position _ _ =>
      Lexeme.column "cte" s!"group_{position}" ++ [.word "ASC"]) ++
    Select.windowLexemes (some page.limit) (if page.offset = 0 then none else some page.offset)

def enumerationText (keys : List GroupKey) (conditions : List (List Lexeme)) (page : Page) :
    List Lexeme :=
  [.word "WITH", .name "cte", .word "AS", .opening] ++ groupsText settings keys conditions ++
    .closing :: groupPageText keys page

end

/-- The names under which labels are joined. -/
def labelNames (keys : List GroupKey) : List String :=
  (eachKey keys fun _ number key => if isTag key then [s!"l{number}"] else []).flatten

/-! ## The parts of the statement, key by key -/

/-- The column that has the value of a key. -/
def keyColumn (number : Nat) : GroupKey → ColumnRef
  | .session => Table.testcases.col .sessionId
  | .tag _ => ⟨.label number, .value⟩

/-- The labels that a key needs. -/
def keyJoin (number : Nat) : GroupKey → List Join
  | .session => []
  | .tag tag => [labelJoin number tag]

/-- A count that goes along with the keys is at each of them the number of tags before it. -/
theorem keyColumns_eq (start : Nat) (keys : List GroupKey) :
    keyColumns start keys = eachKey keys fun _ number key => keyColumn (number + start) key := by
  induction keys generalizing start with
  | nil => rfl
  | cons key keys inductionHypothesis =>
      rw [eachKey_cons]
      cases key with
      | session =>
          rw [keyColumns, inductionHypothesis]
          rfl
      | tag tag =>
          rw [keyColumns, inductionHypothesis, Nat.zero_add]
          simp only [Nat.add_assoc, Nat.add_comm start 1]
          rfl

theorem keyJoins_eq (start : Nat) (keys : List GroupKey) :
    keyJoins start keys =
      (eachKey keys fun _ number key => keyJoin (number + start) key).flatten := by
  induction keys generalizing start with
  | nil => rfl
  | cons key keys inductionHypothesis =>
      rw [eachKey_cons, List.flatten_cons]
      cases key with
      | session =>
          rw [keyJoins, inductionHypothesis]
          rfl
      | tag tag =>
          rw [keyJoins, inductionHypothesis, Nat.zero_add]
          simp only [Nat.add_assoc, Nat.add_comm start 1]
          rfl

/-- The names of the labels, when the numbers begin at `start`. -/
theorem labels_eq_range (name : Nat → String) (start : Nat) (keys : List GroupKey) :
    (eachKey keys fun _ number key =>
        if isTag key then [name (number + start)] else []).flatten =
      (List.range' start (keys.countP isTag)).map name := by
  induction keys generalizing start with
  | nil => rfl
  | cons key keys inductionHypothesis =>
      rw [eachKey_cons, List.flatten_cons]
      cases key with
      | session => exact inductionHypothesis start
      | tag tag =>
          have counted : (GroupKey.tag tag :: keys).countP isTag = keys.countP isTag + 1 :=
            List.countP_cons_of_pos rfl
          have later := inductionHypothesis (start + 1)
          rw [counted, List.range'_succ, List.map_cons, ← later, Nat.zero_add]
          simp only [Nat.add_assoc, Nat.add_comm start 1]
          rfl

theorem labelNames_eq (keys : List GroupKey) :
    labelNames keys = (List.range (keys.countP isTag)).map fun number => s!"l{number}" := by
  rw [List.range_eq_range']
  exact labels_eq_range (fun number => s!"l{number}") 0 keys

theorem nodup_labelNames (keys : List GroupKey) : (labelNames keys).Nodup := by
  rw [labelNames_eq]
  refine List.Pairwise.map _ ?_ List.nodup_range
  intro number other apart same
  have digits : Nat.toDigits 10 number = Nat.toDigits 10 other := by
    have characters (count : Nat) : s!"l{count}".toList = 'l' :: Nat.toDigits 10 count := by
      rw [String.toList_append]
      exact congrArg ('l' :: ·) String.toList_ofList
    have tails := congrArg String.toList same
    rw [characters, characters] at tails
    exact (List.cons.inj tails).2
  have values := congrArg Text.decimalValue digits
  rw [Text.decimalValue_toDigits, Text.decimalValue_toDigits] at values
  exact apart values

/-! ## Writing the parts -/

section

variable (settings : Settings)

theorem written_keyColumn (number : Nat) (key : GroupKey) :
    written settings.dialect settings.tables (keyColumn number key).fragments =
      keyText settings number key := by
  cases key <;> exact written_column settings.dialect settings.tables _ _

theorem written_keyJoin (number : Nat) (key : GroupKey) :
    ((keyJoin number key).flatMap fun join =>
        written settings.dialect settings.tables join.fragments) =
      joinText settings number key := by
  rcases settings with ⟨dialect, tables⟩
  cases key with
  | session => rfl
  | tag tag =>
      have inner : ¬ (labelJoin number tag).outer = true := Bool.false_ne_true
      rw [keyJoin, List.flatMap_singleton, Join.fragments, if_neg inner]
      cases dialect <;> rfl

theorem written_renamed (position number : Nat) (key : GroupKey) :
    written settings.dialect settings.tables
        (Projection.renamed (keyColumn number key) (.group position)).fragments =
      renamedText settings position number key := by
  rw [Projection.fragments, written_append, written_keyColumn]
  cases settings.dialect <;> rfl

theorem written_status :
    written settings.dialect settings.tables
        (Projection.least (Table.testcases.col .status) .aggregatedStatus).fragments =
      statusText settings := by
  cases settings.dialect <;> rfl

theorem written_count :
    written settings.dialect settings.tables
        (Projection.countDistinct (Table.testcases.col .id) .testcaseCount).fragments =
      countText settings := by
  cases settings.dialect <;> rfl

theorem written_groupProjections (keys : List GroupKey) (conditions : List Condition) :
    ((groupRows keys conditions).projections.map fun projection =>
        written settings.dialect settings.tables projection.fragments) =
      groupProjectionTexts settings keys := by
  have given : (keyColumns 0 keys).mapIdx (fun position column =>
      Projection.renamed column (.group position)) =
        eachKey keys fun position number key =>
          Projection.renamed (keyColumn number key) (.group position) := by
    rw [keyColumns_eq]
    exact List.mapIdx_mapIdx
  rw [groupRows, given, List.map_append, map_eachKey, List.map_cons, List.map_singleton,
    written_status, written_count]
  simp only [written_renamed]
  rfl

theorem written_groupRows {keys : List GroupKey} (nonempty : keys ≠ [])
    {conditions : List Condition} (conditioned : conditions ≠ []) :
    written settings.dialect settings.tables (groupRows keys conditions).fragments =
      groupsText settings keys (conditionTexts settings conditions) := by
  have columns : keyColumns 0 keys = eachKey keys fun _ number key => keyColumn number key :=
    keyColumns_eq 0 keys
  have grouping : ((groupRows keys conditions).grouping.map fun column =>
      written settings.dialect settings.tables column.fragments) =
        eachKey keys fun _ number key => keyText settings number key := by
    rw [groupRows, columns, map_eachKey]
    simp only [written_keyColumn]
  have ordering : ((groupRows keys conditions).ordering.map fun item =>
      written settings.dialect settings.tables (Select.ordered item)) =
        eachKey keys fun _ number key => keyText settings number key ++ [.word "ASC"] := by
    rw [groupRows, columns, map_eachKey, map_eachKey]
    simp only [Select.written_ascending, written_keyColumn]
  have joins : ((groupRows keys conditions).joins.flatMap fun join =>
      written settings.dialect settings.tables join.fragments) =
        (eachKey keys fun _ number key => joinText settings number key).flatten := by
    rw [groupRows, keyJoins_eq, List.flatMap_def, List.map_flatten, List.flatten_flatten,
      List.map_map, map_eachKey]
    change (eachKey keys fun _ number key => (keyJoin number key).flatMap _).flatten = _
    simp only [written_keyJoin]
  have keyed : keyColumns 0 keys ≠ [] := columns ▸ eachKey_ne_nil nonempty _
  have ordered : (groupRows keys conditions).ordering ≠ [] :=
    fun none => keyed (List.map_eq_nil_iff.mp none)
  rw [Select.fragments_eq, written_append, written_append, Select.written_selected,
    Select.written_conditions _ _ conditioned, Select.written_arranged,
    Select.written_grouping _ _ keyed, Select.written_ordering _ _ ordered,
    written_groupProjections, grouping, ordering, joins]
  have unwindowed : Select.windowLexemes (groupRows keys conditions).limit
      (groupRows keys conditions).offset = [] := rfl
  rw [unwindowed, List.append_nil, groupsText, ← List.append_assoc]
  rfl

theorem written_groupPage {keys : List GroupKey} (nonempty : keys ≠ []) (page : Page) :
    written settings.dialect settings.tables
        (pageSelect page [] ((groupColumnsOf keys).map fun column =>
          (pageColumn column.column, .ascending))).fragments = groupPageText keys page := by
  let select := pageSelect page [] ((groupColumnsOf keys).map fun column =>
    (pageColumn column.column, .ascending))
  have columns : select.ordering = eachKey keys fun position _ _ =>
      (pageColumn (.group position), Direction.ascending) :=
    map_eachKey keys (fun position _ key => GroupColumn.mk position key) _
  have ordered : select.ordering ≠ [] := columns ▸ eachKey_ne_nil nonempty _
  have ordering : (select.ordering.map fun item =>
      written settings.dialect settings.tables (Select.ordered item)) =
        eachKey keys fun position _ _ =>
          Lexeme.column "cte" s!"group_{position}" ++ [.word "ASC"] := by
    rw [columns, map_eachKey]
    simp only [Select.written_ascending, pageColumn, written_column]
    rfl
  have projections : (select.projections.map fun projection =>
      written settings.dialect settings.tables projection.fragments) =
        [[.name "cte", .sign ".", .sign "*"],
          [.word "COUNT", .opening, .sign "*", .closing, .word "OVER", .opening, .closing,
            .word "AS", .name "total_count"]] := by
    cases settings.dialect <;> rfl
  change written settings.dialect settings.tables select.fragments = _
  rw [Select.fragments_eq, written_append, written_append, Select.written_selected,
    Select.written_arranged, Select.written_ordering _ _ ordered, projections, ordering,
    groupPageText]
  simp only [List.append_assoc]
  rfl

theorem written_enumeration {keys : List GroupKey} (nonempty : keys ≠ [])
    {conditions : List Condition} (conditioned : conditions ≠ []) (page : Page) :
    written settings.dialect settings.tables (Statement.paged (groupRows keys conditions)
        (pageSelect page [] ((groupColumnsOf keys).map fun column =>
          (pageColumn column.column, .ascending)))).fragments =
      enumerationText settings keys (conditionTexts settings conditions) page := by
  rw [written_paged, written_groupRows settings nonempty conditioned,
    written_groupPage settings nonempty, enumerationText, List.append_assoc]
  rfl

/-! ## Pins -/

/-- Each key is pinned to the value that stands at its position. -/
structure PinTexts (keys : List GroupKey) (values : List String) (pins : List (List Lexeme)) :
    Prop where
  valueForKey : values.length = keys.length
  pinForKey : pins.length = keys.length
  pinned : ∀ position key value, keys[position]? = some key → values[position]? = some value →
    pins[position]? = pinText? settings (tagsBefore keys position) key value

theorem written_pin (number : Nat) (key : GroupKey) (parameter : Parameter) :
    written settings.dialect settings.tables
        (Condition.conjunct (.test (.compare (keyColumn number key) .equal parameter))) =
      keyText settings number key ++ [.sign "=", .value (settings.dialect.bind parameter)] := by
  have sign : Fragment.filled settings.dialect settings.tables (.text Comparison.equal.sign) =
      [.sign "="] := by
    cases settings.dialect <;> rfl
  rw [Condition.conjunct, Test.fragments, comparison, written_append, written_cons, sign,
    written_keyColumn]
  rfl

/-- What pins are written when the numbers of the tags begin at `start`. -/
theorem pinned_texts {start : Nat} {keys : List GroupKey} {values : List String}
    {pins : List Condition} (pinned : Pinned .groups start keys values pins) :
    values.length = keys.length ∧ pins.length = keys.length ∧
      ∀ position key value, keys[position]? = some key → values[position]? = some value →
        (conditionTexts settings pins)[position]? =
          pinText? settings (tagsBefore keys position + start) key value := by
  induction pinned with
  | nil => exact ⟨rfl, rfl, nofun⟩
  | @session number keys value values id pins named others inductionHypothesis =>
      rcases inductionHypothesis with ⟨valueCount, pinCount, later⟩
      refine ⟨congrArg (· + 1) valueCount, congrArg (· + 1) pinCount, ?_⟩
      intro position key other isKey isValue
      cases position with
      | zero =>
          cases isKey
          cases isValue
          have text := written_pin settings number .session (.id id)
          rw [Dialect.bind_id] at text
          rw [pinText?, pinValue?, named]
          exact congrArg some text
      | succ position =>
          rw [tagsBefore_succ]
          exact later position key other isKey isValue
  | @tag number keys tag value values pins others inductionHypothesis =>
      rcases inductionHypothesis with ⟨valueCount, pinCount, later⟩
      refine ⟨congrArg (· + 1) valueCount, congrArg (· + 1) pinCount, ?_⟩
      intro position key other isKey isValue
      cases position with
      | zero =>
          cases isKey
          cases isValue
          have first : tagsBefore (.tag tag :: keys) 0 = 0 := rfl
          rw [first, Nat.zero_add]
          exact congrArg some (written_pin settings number (.tag tag) (.text value))
      | succ position =>
          rw [tagsBefore_succ, Nat.add_assoc, Nat.add_comm _ number]
          exact later position key other isKey isValue

end

theorem columns_of_groups (keys : List GroupKey) :
    ((groupColumnsOf keys).map fun column => (column.resultName, column.key)) =
      eachKey keys fun position _ key => (s!"group_{position}", key) :=
  map_eachKey keys (fun position _ key => GroupColumn.mk position key) _

theorem groupBy_of_keysOf {query : Query} (nonempty : keysOf query ≠ []) :
    query.groupBy = some (keysOf query) := by
  rw [keysOf] at nonempty ⊢
  cases grouping : query.groupBy with
  | none => exact absurd (congrArg (Option.getD · []) grouping) nonempty
  | some keys => rfl

theorem pinTexts_of_ok (settings : Settings) {query : Query} {pins : List Condition}
    {keys : List GroupKey} {values : List String} (success : pinsOf query .groups = .ok pins)
    (grouped : query.groupBy = some keys) (selected : query.selector = some values) :
    PinTexts settings keys values (conditionTexts settings pins) := by
  have pinned := pinned_of_ok success
  rw [selection, grouped, selected] at pinned
  rcases pinned_texts settings pinned with ⟨valueForKey, pinForKey, texts⟩
  exact ⟨valueForKey, (List.length_map _).trans pinForKey, texts⟩

theorem no_pins_of_ok {query : Query} {pins : List Condition}
    (success : pinsOf query .groups = .ok pins) (unselected : query.selector = none) :
    pins = [] := by
  rw [pinsOf, enumerationPins, unselected] at success
  exact (Except.ok.inj success).symm

/-- Every plan of an enumeration has this text.  Its columns, the values it selects, the
joined labels, the grouping, both orderings and the pins go by the same keys, each with its
position and the number of tags before it; and no two labels are joined under one name. -/
theorem enumeration_wired {settings : Settings} {owner : Uuid} {query : Query} {plan : Plan}
    (success : ofQuery settings owner query .groups = .ok plan) :
    ∃ keys page pins,
      query.groupBy = some keys ∧ keys ≠ [] ∧ plan.page = some page ∧
      (plan.groupColumns.map fun column => (column.resultName, column.key)) =
        eachKey keys (fun position _ key => (s!"group_{position}", key)) ∧
      labelNames keys = ((List.range (keys.countP isTag)).map fun number => s!"l{number}") ∧
      (labelNames keys).Nodup ∧
      (query.selector = none → pins = []) ∧
      (∀ values, query.selector = some values → PinTexts settings keys values pins) ∧
      plan.filled? = some (enumerationText settings keys
        (conditionTexts settings (scope owner .testcases query) ++ pins ++
          conditionTexts settings (chainOf .groups query)) page) := by
  rcases assembled_of_ok success with ⟨page, pins, paged, pinned, keyed, rfl⟩
  have nonempty := keyed rfl
  have grouped := groupBy_of_keysOf nonempty
  refine ⟨keysOf query, page, conditionTexts settings pins, grouped, nonempty, rfl,
    columns_of_groups (keysOf query), labelNames_eq (keysOf query), nodup_labelNames (keysOf query),
    ?_, ?_, ?_⟩
  · intro unselected
    rw [no_pins_of_ok pinned unselected]
    rfl
  · intro values selected
    exact pinTexts_of_ok settings pinned grouped selected
  · have conditioned : conditionsOf owner query .groups pins ≠ [] := List.cons_ne_nil _ _
    have texts : conditionTexts settings (conditionsOf owner query .groups pins) =
        conditionTexts settings (scope owner .testcases query) ++ conditionTexts settings pins ++
          conditionTexts settings (chainOf .groups query) := by
      rw [conditionTexts, conditionsOf, List.map_append, List.map_append]
      rfl
    rw [filled?_eq, ← texts]
    exact congrArg some (written_enumeration settings nonempty conditioned page)

/-- One tag in two places, with the session between them. -/
def repeatedTag : Query where
  groupBy := some [.tag "os", .session, .tag "os"]
  selector := some ["linux", "00000000-0000-0000-0000-000000000000", "mac"]

/-- The third key is the second tag. -/
theorem enumeration_wired_repeated :
    ∃ plan pins, ofQuery {} .nil repeatedTag .groups = .ok plan ∧
      (plan.groupColumns.map fun column => (column.resultName, column.key)) =
        [("group_0", .tag "os"), ("group_1", .session), ("group_2", .tag "os")] ∧
      pins[2]? = some (Lexeme.column "l1" "value" ++ [.sign "=", .value (.string (some "mac"))]) ∧
      plan.filled? = some (enumerationText {} [.tag "os", .session, .tag "os"]
        (conditionTexts {} (scope .nil .testcases repeatedTag) ++ pins ++
          conditionTexts {} (chainOf .groups repeatedTag)) ⟨0, 100⟩) := by
  have planned : ofQuery {} .nil repeatedTag .groups = .ok _ := rfl
  rcases enumeration_wired planned with
    ⟨keys, page, pins, grouped, -, paged, columns, -, -, -, pinned, text⟩
  cases grouped
  cases paged
  have names : eachKey [.tag "os", .session, .tag "os"]
      (fun position _ key => (s!"group_{position}", key)) =
        [("group_0", .tag "os"), ("group_1", .session), ("group_2", .tag "os")] := by
    decide
  have pin : pinText? {} 1 (.tag "os") "mac" =
      some (Lexeme.column "l1" "value" ++ [.sign "=", .value (.string (some "mac"))]) := by
    decide
  exact ⟨_, pins, planned, columns.trans names,
    ((pinned _ rfl).pinned 2 (.tag "os") "mac" rfl rfl).trans pin, text⟩

end Plan
end TestQuery
