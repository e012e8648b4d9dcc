import TestQuery.Proofs.Json.Fields
import TestQuery.Proofs.Service.Calls
import Mathlib.Data.List.Perm.Basic

namespace TestQuery
namespace Service

open Record
open Json (Cells Ordered)

/-!
# The labels of a record

A record that is looked up carries the labels of its session, which are fetched after it.  Their
rows may come in any order and a key may come several times: each key is there once, in the order
of the keys, with the value of the last row that has it.  Labels that the row of the record itself
may carry count for nothing.  A row that is no label refuses the whole record.
-/

theorem mapM_label_decode_iff {rows : List Cells} {labels : List Label} :
    (rows.mapM fun row => Label.decode (.object row)) = .ok labels ↔
      List.Forall₂ LabelRow rows labels := by
  simp only [mapM_eq_ok_iff, label_decode_iff]

/-! ## Labels by key -/

/-- The last of the labels with the key has the value. -/
def LastSays (labels : List Label) (key value : String) : Prop :=
  ∃ front back, labels = front ++ ⟨key, value⟩ :: back ∧ ∀ later ∈ back, later.key ≠ key

/-- The labels by key: each key that there is, in strictly increasing order, with what the last
label says of it. -/
structure ByKey (labels : List Label) (values : List (String × String)) : Prop where
  ordered : Ordered values
  keys : ∀ key, key ∈ values.map Prod.fst ↔ key ∈ labels.map (·.key)
  last : ∀ key value, (key, value) ∈ values ↔ LastSays labels key value

def labelField (label : Label) : String × String :=
  (label.key, label.value)

theorem map_fst_labelField (labels : List Label) :
    (labels.map labelField).map Prod.fst = labels.map (·.key) :=
  List.map_map

theorem byKey_collect (labels : List Label) : ByKey labels (Label.collect labels) where
  ordered := Json.ordered_sortFields _
  keys key := by
    rw [← map_fst_labelField]
    exact Json.mem_keys_sortFields
  last key value := by
    refine Json.mem_sortFields_iff.trans ?_
    constructor
    · rintro ⟨front, back, split, different⟩
      rcases List.map_eq_append_iff.mp split with ⟨earlier, others, rfl, rfl, isOthers⟩
      rcases List.map_eq_cons_iff.mp isOthers with ⟨label, later, rfl, isLabel, rfl⟩
      cases isLabel
      exact ⟨earlier, later, rfl, fun other member => different _ (List.mem_map_of_mem member)⟩
    · rintro ⟨front, back, rfl, different⟩
      refine ⟨front.map labelField, back.map labelField, List.map_append, ?_⟩
      intro field member
      rcases List.mem_map.mp member with ⟨later, isLater, rfl⟩
      exact different later isLater

/-- Nothing else is the labels by key. -/
theorem ByKey.eq_collect {labels : List Label} {values : List (String × String)}
    (byKey : ByKey labels values) : values = Label.collect labels := by
  have collected := byKey_collect labels
  apply byKey.ordered.ext collected.ordered
  intro key
  apply Option.ext
  intro value
  rw [← byKey.ordered.mem_iff, ← collected.ordered.mem_iff, byKey.last, collected.last]

/-- Labels with different keys may come in any order. -/
theorem collect_of_perm {labels others : List Label} (once : (labels.map (·.key)).Nodup)
    (reordered : labels.Perm others) : Label.collect labels = Label.collect others := by
  rw [← map_fst_labelField] at once
  exact Json.sortFields_of_perm once (reordered.map labelField)

/-! ## Lookups -/

/-- The executor answers a lookup with the row first, and the lookup of the labels that follows it
with the rows. -/
structure Answers (executor : Executor) (history : List Plan) (lookup : Plan) (row : Cells)
    (labelLookup : Plan) (rows : List Cells) : Prop where
  record : ∃ others, executor history lookup = .ok (row :: others)
  labels : executor (lookup :: history) labelLookup = .ok rows

/-- What a lookup makes of the rows of the labels.  It succeeds if every row is a label, and then
completes the record with the labels by key; otherwise it reports why the first row that is no
label is none. -/
structure Labelled {β : Type} (complete : List (String × String) → β) (rows : List Cells)
    (outcome : Except Error β) : Prop where
  succeeds : (∃ record, outcome = .ok record) ↔ ∀ row ∈ rows, ∃ label, LabelRow row label
  record : ∀ record, outcome = .ok record → ∃ labels values,
    List.Forall₂ LabelRow rows labels ∧ ByKey labels values ∧ record = complete values
  misshapen : ∀ front row back, rows = front ++ row :: back →
    (∀ earlier ∈ front, ∃ label, LabelRow earlier label) → (∀ label, ¬ LabelRow row label) →
    ∃ fault, Label.decode (.object row) = .error fault ∧ outcome = .error (.decode fault)

/-- What comes of the rows of the labels. -/
def labelOutcome {β : Type} (complete : List (String × String) → β) (rows : List Cells) :
    Except Error β :=
  ((rows.mapM fun row => Label.decode (.object row)).mapError .decode).map fun labels =>
    complete (Label.collect labels)

theorem labelOutcome_eq_ok_iff {β : Type} {complete : List (String × String) → β}
    {rows : List Cells} {record : β} :
    labelOutcome complete rows = .ok record ↔ ∃ labels, List.Forall₂ LabelRow rows labels ∧
      record = complete (Label.collect labels) := by
  simp only [← mapM_label_decode_iff, labelOutcome]
  cases rows.mapM fun row => Label.decode (.object row) with
  | error fault => simp [Except.map, Except.mapError]
  | ok labels => simp [Except.map, Except.mapError, eq_comm]

theorem labelled_labelOutcome {β : Type} (complete : List (String × String) → β)
    (rows : List Cells) : Labelled complete rows (labelOutcome complete rows) where
  succeeds := by
    rw [← exists_forall₂_iff]
    constructor
    · rintro ⟨record, success⟩
      rcases labelOutcome_eq_ok_iff.mp success with ⟨labels, shown, -⟩
      exact ⟨labels, shown⟩
    · rintro ⟨labels, shown⟩
      exact ⟨_, labelOutcome_eq_ok_iff.mpr ⟨labels, shown, rfl⟩⟩
  record := by
    intro record success
    rcases labelOutcome_eq_ok_iff.mp success with ⟨labels, shown, isRecord⟩
    exact ⟨labels, _, shown, byKey_collect labels, isRecord⟩
  misshapen := by
    intro front row back split before unshown
    cases decoded : Label.decode (.object row) with
    | ok label => exact absurd (label_decode_iff.mp decoded) (unshown label)
    | error fault =>
        have earlier : ∀ row ∈ front, ∃ label, Label.decode (.object row) = .ok label := by
          simpa only [label_decode_iff] using before
        refine ⟨fault, rfl, ?_⟩
        rw [labelOutcome, split, mapM_of_first_error earlier decoded]
        rfl

/-- The rows of labels with different keys may come in any order. -/
theorem labelOutcome_of_perm {β : Type} (complete : List (String × String) → β)
    {rows others : List Cells} {labels : List Label} (shown : List.Forall₂ LabelRow rows labels)
    (once : (labels.map (·.key)).Nodup) (reordered : rows.Perm others) :
    labelOutcome complete rows = labelOutcome complete others := by
  rcases List.perm_comp_forall₂ reordered.symm shown with ⟨otherLabels, otherShown, same⟩
  rw [labelOutcome_eq_ok_iff.mpr ⟨labels, shown, rfl⟩,
    labelOutcome_eq_ok_iff.mpr ⟨otherLabels, otherShown, rfl⟩, collect_of_perm once same.symm]

section

variable {α β : Type} {settings : Settings} {owner : Uuid}

/-- Where a plan could be run, the call goes on with its rows. -/
theorem outcome_fetch_bind {plan : Plan} {executor : Executor} {history : List Plan}
    {rows : List Cells} (answered : executor history plan = .ok rows) (next : List Cells → Call α) :
    ((fetch plan >>= next).run.runFrom executor history).2 =
      ((next rows).run.runFrom executor (plan :: history)).2 := by
  change ((Exchange.send plan _).runFrom executor history).2 = _
  rw [Exchange.runFrom, answered]
  rfl

/-- Once the record is decoded, the rows of its labels decide. -/
theorem outcome_lookupCall {lookup : Plan} {record : RecordName}
    {decode : Cells → Except Json.Fault α} {sessionOf : α → Uuid}
    {complete : α → List (String × String) → β} {executor : Executor} {history : List Plan}
    {row : Cells} {detail : α} {rows : List Cells} (decoded : decode row = .ok detail)
    (answers : Answers executor history lookup row
      (Plan.labelLookup settings owner (sessionOf detail)) rows) :
    ((lookupCall settings owner lookup record decode sessionOf complete).run.runFrom
      executor history).2 = labelOutcome (complete detail) rows := by
  rcases answers with ⟨⟨others, found⟩, labels⟩
  rw [lookupCall, fetchOne, bind_assoc, outcome_fetch_bind found]
  simp only [pure_bind, decoded, ofRows, fetchLabels, bind_assoc]
  rw [outcome_fetch_bind labels, labelOutcome]
  cases rows.mapM fun row => Label.decode (.object row) <;> rfl

end

/-- The rows of the labels decide what the call makes of a row that it has looked up.  Where no key
comes twice their order does not matter, whoever answers and after whatever plans. -/
structure LabelsDecide {β : Type} (call : Call β) (lookup : Plan) (row : Cells)
    (labelLookup : Plan) (complete : List (String × String) → β) : Prop where
  labelled : ∀ executor history rows, Answers executor history lookup row labelLookup rows →
    Labelled complete rows (call.run.runFrom executor history).2
  unordered : ∀ executor history rows other before others labels,
    Answers executor history lookup row labelLookup rows →
    Answers other before lookup row labelLookup others →
    List.Forall₂ LabelRow rows labels → (labels.map (·.key)).Nodup → rows.Perm others →
    (call.run.runFrom executor history).2 = (call.run.runFrom other before).2

theorem labelsDecide_lookupCall {α β : Type} {settings : Settings} {owner : Uuid} (lookup : Plan)
    (record : RecordName) (decode : Cells → Except Json.Fault α) (sessionOf : α → Uuid)
    (complete : α → List (String × String) → β) {row : Cells} {detail : α}
    (decoded : decode row = .ok detail) :
    LabelsDecide (lookupCall settings owner lookup record decode sessionOf complete) lookup row
      (Plan.labelLookup settings owner (sessionOf detail)) (complete detail) where
  labelled := by
    intro executor history rows answers
    rw [outcome_lookupCall decoded answers]
    exact labelled_labelOutcome _ rows
  unordered := by
    intro executor history rows other before others labels answers otherAnswers shown once reordered
    rw [outcome_lookupCall decoded answers, outcome_lookupCall decoded otherAnswers]
    exact labelOutcome_of_perm _ shown once reordered

/-- Whatever rows the labels of a record come in, the record has each key once, in order, with its
last value, or it is not given.  Labels of its own are replaced. -/
theorem labels_reported_by_key (settings : Settings) (owner id : Uuid) (row : Cells) :
    (∀ detail, TestcaseDetail.decode (.object row) = .ok detail →
      LabelsDecide (getTestcase settings owner id) (Plan.testcaseLookup settings owner id) row
        (Plan.labelLookup settings owner detail.sessionId)
        fun labels => { detail with labels := labels }) ∧
    (∀ detail, SessionDetail.decode (.object row) = .ok detail →
      LabelsDecide (getSession settings owner id) (Plan.sessionLookup settings owner id) row
        (Plan.labelLookup settings owner detail.id)
        fun labels => { detail with labels := labels }) := by
  constructor
  · intro detail decoded
    rw [getTestcase_eq_lookupCall]
    exact labelsDecide_lookupCall _ _ (fun row => TestcaseDetail.decode (.object row)) _ _ decoded
  · intro detail decoded
    rw [getSession_eq_lookupCall]
    exact labelsDecide_lookupCall _ _ (fun row => SessionDetail.decode (.object row)) _ _ decoded

/-- A session that carries labels of its own. -/
def labelledRow : Cells :=
  [("created_at", .string "2025-01-01 00:00:00"),
    ("id", .string "00000000-0000-0000-0000-000000000000"),
    ("labels", .object [("zone", .string "north")])]

/-- The rows of three labels, of which two have the same key and one has no value. -/
def repeatedRows : List Cells :=
  [[("key", .string "os"), ("value", .null)], [("key", .string "arch")],
    [("key", .string "os"), ("value", .string "linux")]]

/-- Answer the first plan with the session and the second with the rows. -/
def labelledBy (rows : List Cells) : Executor
  | [], _ => .ok [labelledRow]
  | _ :: _, _ => .ok rows

/-- The last label with a key counts and the session's own are gone.  A row without a key refuses
the session, and the row behind it, which is no label either, is not what is reported. -/
theorem labels_reported_by_key_repeated :
    (∃ detail, ((getSession {} .nil .nil).run.runFrom (labelledBy repeatedRows) []).2 = .ok detail ∧
      detail.labels = [("arch", ""), ("os", "linux")]) ∧
    ((getSession {} .nil .nil).run.runFrom
      (labelledBy (repeatedRows ++ [[("value", .null)], [("key", .null)]])) []).2 =
        .error (.decode (.missingField "key")) := by
  have readable : ∃ detail, SessionDetail.decode (.object labelledRow) = .ok detail := ⟨_, rfl⟩
  rcases readable with ⟨detail, decoded⟩
  have decided := (labels_reported_by_key {} .nil .nil labelledRow).2 detail decoded
  have labels : List.Forall₂ LabelRow repeatedRows [⟨"os", ""⟩, ⟨"arch", ""⟩, ⟨"os", "linux"⟩] :=
    mapM_label_decode_iff.mp rfl
  have areLabels := exists_forall₂_iff.mp ⟨_, labels⟩
  constructor
  · have labelled := decided.labelled (labelledBy repeatedRows) [] repeatedRows ⟨⟨[], rfl⟩, rfl⟩
    rcases labelled.succeeds.mpr areLabels with ⟨detail, success⟩
    rcases labelled.record detail success with ⟨others, values, shown, byKey, rfl⟩
    cases (mapM_label_decode_iff.mpr labels).symm.trans (mapM_label_decode_iff.mpr shown)
    have collected : Label.collect [⟨"os", ""⟩, ⟨"arch", ""⟩, ⟨"os", "linux"⟩] =
        [("arch", ""), ("os", "linux")] := by
      decide +kernel
    exact ⟨_, success, byKey.eq_collect.trans collected⟩
  · have labelled := decided.labelled
      (labelledBy (repeatedRows ++ [[("value", .null)], [("key", .null)]])) []
      (repeatedRows ++ [[("value", .null)], [("key", .null)]]) ⟨⟨[], rfl⟩, rfl⟩
    have keyless : ∀ label, ¬ LabelRow [("value", .null)] label := by
      intro label shows
      rcases shows.key.shown with ⟨cell, found, -⟩
      cases found
    rcases labelled.misshapen repeatedRows _ _ rfl areLabels keyless with ⟨fault, refused, failure⟩
    cases refused
    exact failure

end Service
end TestQuery
