import TestQuery.Proofs.Json.Decoding
import TestQuery.Plan.Listing
import TestQuery.Record.Group
import TestQuery.Record.Label
import TestQuery.Record.Session

namespace TestQuery
namespace Record

open Json

/-!
# Rows that are records

Which rows are records is said of their cells, column by column, and apart from how they are
decoded: a row is decoded as the record that it is, and refused if it is none.
-/

/-! ## The columns of records -/

structure TestcaseRow (row : Cells) (testcase : Testcase) : Prop where
  id : Shows row "id" IsId testcase.id
  sessionId : Shows row "session_id" IsId testcase.sessionId
  name : Shows row "name" IsText testcase.name
  status : Shows row "status" IsRank testcase.status
  classname : MayShow row "classname" IsText testcase.classname
  testsuite : MayShow row "testsuite" IsText testcase.testsuite
  file : MayShow row "file" IsText testcase.file
  createdAt : Shows row "created_at" IsText testcase.createdAt

structure SessionRow (row : Cells) (session : Session) : Prop where
  id : Shows row "id" IsId session.id
  description : MayShow row "description" IsText session.description
  status : MayShow row "aggregated_status" IsRank session.status
  createdAt : Shows row "created_at" IsText session.createdAt

/-- The row is this testcase, with all that is known about it. -/
structure TestcaseDetailRow (row : Cells) (detail : TestcaseDetail) : Prop where
  id : Shows row "id" IsId detail.id
  sessionId : Shows row "session_id" IsId detail.sessionId
  name : Shows row "name" IsText detail.name
  status : Shows row "status" IsRank detail.status
  classname : MayShow row "classname" IsText detail.classname
  testsuite : MayShow row "testsuite" IsText detail.testsuite
  file : MayShow row "file" IsText detail.file
  output : MayShow row "output" IsText detail.output
  baggage : ShowsOr row "baggage" IsBaggage none detail.baggage
  labels : ShowsOr row "labels" IsTextMap [] detail.labels
  createdAt : Shows row "created_at" IsText detail.createdAt

/-- The row is this session, with all that is known about it. -/
structure SessionDetailRow (row : Cells) (detail : SessionDetail) : Prop where
  id : Shows row "id" IsId detail.id
  description : MayShow row "description" IsText detail.description
  status : MayShow row "aggregated_status" IsRank detail.status
  baggage : ShowsOr row "baggage" IsBaggage none detail.baggage
  labels : ShowsOr row "labels" IsTextMap [] detail.labels
  createdAt : Shows row "created_at" IsText detail.createdAt

/-- The row is this label; a value that is null or absent is empty. -/
structure LabelRow (row : Cells) (label : Label) : Prop where
  key : Shows row "key" IsText label.key
  value : ∃ content, MayShow row "value" IsText content ∧ label.value = content.getD ""

/-- The value that a cell gives to a key: none if it is absent or null, and its own text if it
is one.  Anything else is shown as it is written. -/
inductive KeyValue : Option Json → Option String → Prop where
  | absent : KeyValue none none
  | null : KeyValue (some .null) none
  | text (content : String) : KeyValue (some (.string content)) (some content)
  | other {cell : Json} (notNull : cell ≠ .null) (noText : ∀ content, cell ≠ .string content) :
      KeyValue (some cell) (some cell.compact)

/-- The row tells the worst status of a group. -/
def TellsStatus (row : Cells) (status : Status) : Prop :=
  ∃ cell, field? row "aggregated_status" = some cell ∧ IsRank cell status

/-- The row has a whole number in the column. -/
def TellsNumber (row : Cells) (name : String) (value : Int) : Prop :=
  ∃ cell, field? row name = some cell ∧ IsInteger cell value

/-- The row is this group, of testcases grouped by the keys. -/
structure GroupRow (keys : List GroupKey) (row : Cells) (group : Group) : Prop where
  valueForKey : group.values.length = keys.length
  values : ∀ position, position < keys.length → ∃ value, group.values[position]? = some value ∧
    KeyValue (field? row s!"group_{position}") value
  status : TellsStatus row group.status
  testcaseCount : TellsNumber row "testcase_count" group.testcaseCount

/-! ## Decoding rows -/

theorem testcase_decode_iff {row : Cells} {record : Testcase} :
    Testcase.decode (.object row) = .ok record ↔ TestcaseRow row record := by
  have once : (Testcase.layout.columns.map (·.name)).Nodup := by decide
  simp only [Testcase.decode, bind_eq_ok_iff]
  constructor
  · intro decoded
    rcases decoded with ⟨cells, taken, id, isId, sessionId, isSessionId, name, isName, status,
      isStatus, classname, isClassname, testsuite, isTestsuite, file, isFile, createdAt,
      isCreatedAt, done⟩
    cases done
    rcases (ofFields_eq_ok_iff once).mp taken with ⟨rfl, kept⟩
    simp only [Testcase.layout, List.forall_mem_cons] at kept
    rcases kept with ⟨keptId, keptSessionId, keptName, keptStatus, keptClassname, keptTestsuite,
      keptFile, keptCreatedAt, -⟩
    exact {
      id := (shows_iff decodes_uuid).mp ⟨keptId, isId⟩
      sessionId := (shows_iff decodes_uuid).mp ⟨keptSessionId, isSessionId⟩
      name := (shows_iff decodes_text).mp ⟨keptName, isName⟩
      status := (shows_iff decodes_status).mp ⟨keptStatus, isStatus⟩
      classname := (mayShow_iff decodes_text).mp ⟨keptClassname, isClassname⟩
      testsuite := (mayShow_iff decodes_text).mp ⟨keptTestsuite, isTestsuite⟩
      file := (mayShow_iff decodes_text).mp ⟨keptFile, isFile⟩
      createdAt := (shows_iff decodes_text).mp ⟨keptCreatedAt, isCreatedAt⟩ }
  · intro shows
    have id := (shows_iff decodes_uuid).mpr shows.id
    have sessionId := (shows_iff decodes_uuid).mpr shows.sessionId
    have name := (shows_iff decodes_text).mpr shows.name
    have status := (shows_iff decodes_status).mpr shows.status
    have classname := (mayShow_iff decodes_text).mpr shows.classname
    have testsuite := (mayShow_iff decodes_text).mpr shows.testsuite
    have file := (mayShow_iff decodes_text).mpr shows.file
    have createdAt := (shows_iff decodes_text).mpr shows.createdAt
    have kept : ∀ rule ∈ Testcase.layout.columns, rule.Kept row := by
      simp only [Testcase.layout, List.forall_mem_cons]
      exact ⟨id.1, sessionId.1, name.1, status.1, classname.1, testsuite.1, file.1, createdAt.1,
        List.forall_mem_nil _⟩
    exact ⟨row, (ofFields_eq_ok_iff once).mpr ⟨rfl, kept⟩, _, id.2, _, sessionId.2, _, name.2, _,
      status.2, _, classname.2, _, testsuite.2, _, file.2, _, createdAt.2, rfl⟩

theorem session_decode_iff {row : Cells} {record : Session} :
    Session.decode (.object row) = .ok record ↔ SessionRow row record := by
  have once : (Session.layout.columns.map (·.name)).Nodup := by decide
  simp only [Session.decode, bind_eq_ok_iff]
  constructor
  · intro decoded
    rcases decoded with ⟨cells, taken, id, isId, description, isDescription, status, isStatus,
      createdAt, isCreatedAt, done⟩
    cases done
    rcases (ofFields_eq_ok_iff once).mp taken with ⟨rfl, kept⟩
    simp only [Session.layout, List.forall_mem_cons] at kept
    rcases kept with ⟨keptId, keptDescription, keptStatus, keptCreatedAt, -⟩
    exact {
      id := (shows_iff decodes_uuid).mp ⟨keptId, isId⟩
      description := (mayShow_iff decodes_text).mp ⟨keptDescription, isDescription⟩
      status := (mayShow_iff decodes_status).mp ⟨keptStatus, isStatus⟩
      createdAt := (shows_iff decodes_text).mp ⟨keptCreatedAt, isCreatedAt⟩ }
  · intro shows
    have id := (shows_iff decodes_uuid).mpr shows.id
    have description := (mayShow_iff decodes_text).mpr shows.description
    have status := (mayShow_iff decodes_status).mpr shows.status
    have createdAt := (shows_iff decodes_text).mpr shows.createdAt
    have kept : ∀ rule ∈ Session.layout.columns, rule.Kept row := by
      simp only [Session.layout, List.forall_mem_cons]
      exact ⟨id.1, description.1, status.1, createdAt.1, List.forall_mem_nil _⟩
    exact ⟨row, (ofFields_eq_ok_iff once).mpr ⟨rfl, kept⟩, _, id.2, _, description.2, _, status.2,
      _, createdAt.2, rfl⟩

theorem testcaseDetail_decode_iff {row : Cells} {record : TestcaseDetail} :
    TestcaseDetail.decode (.object row) = .ok record ↔ TestcaseDetailRow row record := by
  have once : (TestcaseDetail.layout.columns.map (·.name)).Nodup := by decide
  simp only [TestcaseDetail.decode, bind_eq_ok_iff]
  constructor
  · intro decoded
    rcases decoded with ⟨cells, taken, id, isId, sessionId, isSessionId, name, isName, status,
      isStatus, classname, isClassname, testsuite, isTestsuite, file, isFile, output, isOutput,
      baggage, isBaggage, labels, isLabels, createdAt, isCreatedAt, done⟩
    cases done
    rcases (ofFields_eq_ok_iff once).mp taken with ⟨rfl, kept⟩
    simp only [TestcaseDetail.layout, List.forall_mem_cons] at kept
    rcases kept with ⟨keptId, keptSessionId, keptName, keptStatus, keptClassname, keptTestsuite,
      keptFile, keptOutput, keptBaggage, keptLabels, keptCreatedAt, -⟩
    exact {
      id := (shows_iff decodes_uuid).mp ⟨keptId, isId⟩
      sessionId := (shows_iff decodes_uuid).mp ⟨keptSessionId, isSessionId⟩
      name := (shows_iff decodes_text).mp ⟨keptName, isName⟩
      status := (shows_iff decodes_status).mp ⟨keptStatus, isStatus⟩
      classname := (mayShow_iff decodes_text).mp ⟨keptClassname, isClassname⟩
      testsuite := (mayShow_iff decodes_text).mp ⟨keptTestsuite, isTestsuite⟩
      file := (mayShow_iff decodes_text).mp ⟨keptFile, isFile⟩
      output := (mayShow_iff decodes_text).mp ⟨keptOutput, isOutput⟩
      baggage := (showsOr_iff decodes_baggage).mp ⟨keptBaggage, isBaggage⟩
      labels := (showsOr_iff decodes_textMap).mp ⟨keptLabels, isLabels⟩
      createdAt := (shows_iff decodes_text).mp ⟨keptCreatedAt, isCreatedAt⟩ }
  · intro shows
    have id := (shows_iff decodes_uuid).mpr shows.id
    have sessionId := (shows_iff decodes_uuid).mpr shows.sessionId
    have name := (shows_iff decodes_text).mpr shows.name
    have status := (shows_iff decodes_status).mpr shows.status
    have classname := (mayShow_iff decodes_text).mpr shows.classname
    have testsuite := (mayShow_iff decodes_text).mpr shows.testsuite
    have file := (mayShow_iff decodes_text).mpr shows.file
    have output := (mayShow_iff decodes_text).mpr shows.output
    have baggage := (showsOr_iff decodes_baggage).mpr shows.baggage
    have labels := (showsOr_iff decodes_textMap).mpr shows.labels
    have createdAt := (shows_iff decodes_text).mpr shows.createdAt
    have kept : ∀ rule ∈ TestcaseDetail.layout.columns, rule.Kept row := by
      simp only [TestcaseDetail.layout, List.forall_mem_cons]
      exact ⟨id.1, sessionId.1, name.1, status.1, classname.1, testsuite.1, file.1, output.1,
        baggage.1, labels.1, createdAt.1, List.forall_mem_nil _⟩
    exact ⟨row, (ofFields_eq_ok_iff once).mpr ⟨rfl, kept⟩, _, id.2, _, sessionId.2, _, name.2, _,
      status.2, _, classname.2, _, testsuite.2, _, file.2, _, output.2, _, baggage.2, _, labels.2,
      _, createdAt.2, rfl⟩

theorem sessionDetail_decode_iff {row : Cells} {record : SessionDetail} :
    SessionDetail.decode (.object row) = .ok record ↔ SessionDetailRow row record := by
  have once : (SessionDetail.layout.columns.map (·.name)).Nodup := by decide
  simp only [SessionDetail.decode, bind_eq_ok_iff]
  constructor
  · intro decoded
    rcases decoded with ⟨cells, taken, id, isId, description, isDescription, status, isStatus,
      baggage, isBaggage, labels, isLabels, createdAt, isCreatedAt, done⟩
    cases done
    rcases (ofFields_eq_ok_iff once).mp taken with ⟨rfl, kept⟩
    simp only [SessionDetail.layout, List.forall_mem_cons] at kept
    rcases kept with ⟨keptId, keptDescription, keptStatus, keptBaggage, keptLabels, keptCreatedAt,
      -⟩
    exact {
      id := (shows_iff decodes_uuid).mp ⟨keptId, isId⟩
      description := (mayShow_iff decodes_text).mp ⟨keptDescription, isDescription⟩
      status := (mayShow_iff decodes_status).mp ⟨keptStatus, isStatus⟩
      baggage := (showsOr_iff decodes_baggage).mp ⟨keptBaggage, isBaggage⟩
      labels := (showsOr_iff decodes_textMap).mp ⟨keptLabels, isLabels⟩
      createdAt := (shows_iff decodes_text).mp ⟨keptCreatedAt, isCreatedAt⟩ }
  · intro shows
    have id := (shows_iff decodes_uuid).mpr shows.id
    have description := (mayShow_iff decodes_text).mpr shows.description
    have status := (mayShow_iff decodes_status).mpr shows.status
    have baggage := (showsOr_iff decodes_baggage).mpr shows.baggage
    have labels := (showsOr_iff decodes_textMap).mpr shows.labels
    have createdAt := (shows_iff decodes_text).mpr shows.createdAt
    have kept : ∀ rule ∈ SessionDetail.layout.columns, rule.Kept row := by
      simp only [SessionDetail.layout, List.forall_mem_cons]
      exact ⟨id.1, description.1, status.1, baggage.1, labels.1, createdAt.1, List.forall_mem_nil _⟩
    exact ⟨row, (ofFields_eq_ok_iff once).mpr ⟨rfl, kept⟩, _, id.2, _, description.2, _, status.2,
      _, baggage.2, _, labels.2, _, createdAt.2, rfl⟩

theorem label_decode_iff {row : Cells} {label : Label} :
    Label.decode (.object row) = .ok label ↔ LabelRow row label := by
  have once : (Label.layout.columns.map (·.name)).Nodup := by decide
  simp only [Label.decode, bind_eq_ok_iff]
  constructor
  · intro decoded
    rcases decoded with ⟨cells, taken, key, isKey, content, isContent, done⟩
    cases done
    rcases (ofFields_eq_ok_iff once).mp taken with ⟨rfl, kept⟩
    simp only [Label.layout, List.forall_mem_cons] at kept
    rcases kept with ⟨keptKey, keptValue, -⟩
    exact {
      key := (shows_iff decodes_text).mp ⟨keptKey, isKey⟩
      value := ⟨content, (mayShow_iff decodes_text).mp ⟨keptValue, isContent⟩, rfl⟩ }
  · intro shows
    rcases label with ⟨key, value⟩
    rcases shows.value with ⟨content, shown, rfl⟩
    have key := (shows_iff decodes_text).mpr shows.key
    have value := (mayShow_iff decodes_text).mpr shown
    have kept : ∀ rule ∈ Label.layout.columns, rule.Kept row := by
      simp only [Label.layout, List.forall_mem_cons]
      exact ⟨key.1, value.1, List.forall_mem_nil _⟩
    exact ⟨row, (ofFields_eq_ok_iff once).mpr ⟨rfl, kept⟩, _, key.2, _, value.2, rfl⟩

/-! ## Groups -/

theorem keyValue_iff {cell : Option Json} {value : Option String} :
    KeyValue cell value ↔ Group.valueOf cell = value := by
  constructor
  · intro shown
    cases shown with
    | absent => rfl
    | null => rfl
    | text content => rfl
    | @other cell notNull noText =>
        cases cell with
        | null => exact absurd rfl notNull
        | string content => exact absurd rfl (noText content)
        | _ => rfl
  · rintro rfl
    cases cell with
    | none => exact .absent
    | some cell =>
        cases cell with
        | null => exact .null
        | string content => exact .text content
        | _ => exact .other nofun nofun

theorem int_eq_ok_iff {row : Cells} {name : String} {value : Int} :
    row.int name = .ok value ↔ TellsNumber row name value := by
  rw [Cells.int, TellsNumber]
  cases field? row name with
  | none => simp
  | some cell =>
      rw [Option.bind_some]
      cases whole : int64? cell with
      | none =>
          have noInteger : ¬ IsInteger cell value := by
            rw [← int64?_eq_some_iff, whole]
            nofun
          simp [noInteger]
      | some found => simp [← int64?_eq_some_iff, whole]

theorem int_eq_error {row : Cells} {name : String}
    (untold : ∀ value, ¬ TellsNumber row name value) :
    row.int name = .error (.notInteger name) := by
  rw [Cells.int]
  split
  · rename_i value found
    refine absurd (int_eq_ok_iff.mp ?_) (untold value)
    rw [Cells.int, found]
  · rfl

/-- The columns of an enumeration hold the values of the keys, each under its position. -/
theorem groupValues_iff {keys : List GroupKey} {row : Cells} {values : List (Option String)} :
    ((Plan.groupColumnsOf keys).map fun column =>
        Group.valueOf (field? row column.resultName)) = values ↔
      values.length = keys.length ∧ ∀ position, position < keys.length →
        ∃ value, values[position]? = some value ∧
          KeyValue (field? row s!"group_{position}") value := by
  have entry (position : Nat) : ((Plan.groupColumnsOf keys).map fun column =>
      Group.valueOf (field? row column.resultName))[position]? =
        keys[position]?.map fun _ => Group.valueOf (field? row s!"group_{position}") := by
    rw [Plan.groupColumnsOf, List.getElem?_map, List.getElem?_mapIdx, Option.map_map]
    rfl
  have count : ((Plan.groupColumnsOf keys).map fun column =>
      Group.valueOf (field? row column.resultName)).length = keys.length := by
    rw [List.length_map, Plan.groupColumnsOf, List.length_mapIdx]
  constructor
  · rintro rfl
    refine ⟨count, ?_⟩
    intro position inRange
    refine ⟨_, ?_, keyValue_iff.mpr rfl⟩
    rw [entry, List.getElem?_eq_getElem inRange, Option.map_some]
  · rintro ⟨lengths, shown⟩
    apply List.ext_getElem?
    intro position
    rw [entry]
    by_cases inRange : position < keys.length
    · rcases shown position inRange with ⟨value, isValue, given⟩
      rw [isValue, List.getElem?_eq_getElem inRange, Option.map_some, keyValue_iff.mp given]
    · rw [List.getElem?_eq_none (by omega), List.getElem?_eq_none (by omega), Option.map_none]

theorem tellsStatus_iff {row : Cells} {status : Status} :
    TellsStatus row status ↔ ∃ rank,
      (field? row "aggregated_status").bind int64? = some rank ∧
        Decoder.statusOfRank rank = .ok status := by
  simp only [TellsStatus, isRank_iff, Option.bind_eq_some_iff, int64?_eq_some_iff]
  constructor
  · rintro ⟨cell, found, rank, isInteger, named⟩
    exact ⟨rank, ⟨cell, found, isInteger⟩, named⟩
  · rintro ⟨rank, ⟨cell, found, isInteger⟩, named⟩
    exact ⟨cell, found, rank, isInteger, named⟩

theorem group_decode_iff {keys : List GroupKey} {row : Cells} {group : Group} :
    Group.decode (Plan.groupColumnsOf keys) row = .ok group ↔ GroupRow keys row group := by
  have decoded : Group.decode (Plan.groupColumnsOf keys) row = .ok group ↔
      ((Plan.groupColumnsOf keys).map fun column =>
        Group.valueOf (field? row column.resultName)) = group.values ∧
      TellsStatus row group.status ∧ row.int "testcase_count" = .ok group.testcaseCount := by
    rw [tellsStatus_iff, Group.decode]
    cases (field? row "aggregated_status").bind int64? with
    | none => simp [bind, Except.bind]
    | some rank =>
        simp only [Option.some.injEq, exists_eq_left']
        change (Decoder.statusOfRank rank >>= _) = _ ↔ _
        simp only [bind_eq_ok_iff]
        constructor
        · rintro ⟨status, named, count, isCount, done⟩
          cases done
          exact ⟨rfl, named, isCount⟩
        · rintro ⟨isValues, named, isCount⟩
          exact ⟨_, named, _, isCount, by rw [isValues]; rfl⟩
  rw [decoded, groupValues_iff, int_eq_ok_iff]
  constructor
  · rintro ⟨⟨valueForKey, values⟩, isStatus, isCount⟩
    exact ⟨valueForKey, values, isStatus, isCount⟩
  · rintro ⟨valueForKey, values, isStatus, isCount⟩
    exact ⟨⟨valueForKey, values⟩, isStatus, isCount⟩

/-- A row is a group if it tells a status and a number.  Its values can be anything. -/
theorem exists_groupRow_iff {keys : List GroupKey} {row : Cells} :
    (∃ group, GroupRow keys row group) ↔
      (∃ status, TellsStatus row status) ∧ ∃ count, TellsNumber row "testcase_count" count := by
  constructor
  · rintro ⟨group, shows⟩
    exact ⟨⟨_, shows.status⟩, _, shows.testcaseCount⟩
  · rintro ⟨⟨status, isStatus⟩, count, isCount⟩
    rcases groupValues_iff.mp rfl with ⟨valueForKey, values⟩
    exact ⟨⟨_, status, count⟩, valueForKey, values, isStatus, isCount⟩

end Record
end TestQuery
