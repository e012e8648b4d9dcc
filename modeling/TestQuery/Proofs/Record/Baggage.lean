import TestQuery.Proofs.Json.RoundTrip
import TestQuery.Proofs.Record.Rows

namespace TestQuery
namespace Record

open Json

/-!
# Baggage as a value and as text

The baggage of a record may come as a JSON value or as the text of one.  Either way the record
shows the same, and the rest of it is left as it is; a text that spells no value leaves the record
without baggage.  No baggage refuses a record.
-/

/-! ## Rows with other baggage -/

/-- The row with this as its baggage, in place of what it may have. -/
def withBaggage (baggage : Json) (row : Cells) : Cells :=
  setField "baggage" baggage row

section

variable {α : Type} {row : Cells} {name : String} {shape : Json → α → Prop}

theorem field?_withBaggage (baggage : Json) (different : name ≠ "baggage") :
    field? (withBaggage baggage row) name = field? row name :=
  lookup_setField_of_ne different baggage row

theorem shaped_withBaggage (baggage : Json) (different : name ≠ "baggage")
    (shaped : ∀ cell, (name, cell) ∈ row → ∃ other, shape cell other) :
    ∀ cell, (name, cell) ∈ withBaggage baggage row → ∃ other, shape cell other := by
  intro cell member
  rcases mem_setField member with isSet | isKept
  · exact absurd (congrArg Prod.fst isSet) different
  · exact shaped cell isKept

theorem shows_withBaggage (baggage : Json) (different : name ≠ "baggage") {value : α}
    (shows : Shows row name shape value) : Shows (withBaggage baggage row) name shape value where
  shown := by
    rw [field?_withBaggage baggage different]
    exact shows.shown
  shaped := shaped_withBaggage baggage different shows.shaped

theorem showsOr_withBaggage (baggage : Json) (different : name ≠ "baggage") {usual value : α}
    (shows : ShowsOr row name shape usual value) :
    ShowsOr (withBaggage baggage row) name shape usual value where
  shown := by
    rw [field?_withBaggage baggage different]
    exact shows.shown
  absent := by
    rw [field?_withBaggage baggage different]
    exact shows.absent
  shaped := shaped_withBaggage baggage different shows.shaped

/-- The baggage that a row is given is what it shows. -/
theorem showsOr_baggage {baggage : Json} {old result : Option Json}
    (isBaggage : IsBaggage baggage result) (shows : ShowsOr row "baggage" IsBaggage none old) :
    ShowsOr (withBaggage baggage row) "baggage" IsBaggage none result := by
  have found : field? (withBaggage baggage row) "baggage" = some baggage :=
    lookup_setField_self "baggage" baggage row
  refine ⟨?_, ?_, ?_⟩
  · intro cell isCell
    cases found.symm.trans isCell
    exact isBaggage
  · intro absent
    cases found.symm.trans absent
  · intro cell member
    rcases mem_setField member with isSet | isKept
    · cases isSet
      exact ⟨result, isBaggage⟩
    · exact shows.shaped cell isKept

end

/-! ## Records with other baggage -/

section

variable {α : Type} (decode : Decoder α) (toJson : α → Json) (put : Option Json → α) (row : Cells)

/-- The row gives a record whatever its baggage is, and that alone is put into the record. -/
def CarriesBaggage : Prop :=
  ∀ baggage result, IsBaggage baggage result →
    decode (.object (withBaggage baggage row)) = .ok (put result)

/-- With the value as its baggage the row gives a record that shows the same as the one that it
gives with the text, and that one has the value. -/
def SameAsText (value : Json) (text : String) : Prop :=
  ∃ asValue asText, decode (.object (withBaggage value row)) = .ok asValue ∧
    decode (.object (withBaggage (.string text) row)) = .ok asText ∧
    asText = put (some value) ∧ toJson asValue = toJson asText

/-- What the row gives with other baggage.  A value that is no string is the same as what is
written of it, and as any other text that spells it; a text that spells no value is dropped. -/
structure BaggageShown : Prop where
  written : ∀ value, Plain value → value.nesting ≤ depthLimit →
    (∀ content, value ≠ .string content) → SameAsText decode toJson put row value value.compact
  spelled : ∀ value text, (∀ content, value ≠ .string content) →
    JsonText depthLimit text.toList value → SameAsText decode toJson put row value text
  dropped : ∀ text, (∀ value, ¬ JsonText depthLimit text.toList value) →
    decode (.object (withBaggage (.string text) row)) = .ok (put none)

end

theorem carriesBaggage_testcaseDetail {row : Cells} {detail : TestcaseDetail}
    (decoded : TestcaseDetail.decode (.object row) = .ok detail) :
    CarriesBaggage TestcaseDetail.decode (fun baggage => { detail with baggage := baggage })
      row := by
  intro baggage result isBaggage
  have shows := testcaseDetail_decode_iff.mp decoded
  apply testcaseDetail_decode_iff.mpr
  exact {
    id := shows_withBaggage baggage (by decide) shows.id
    sessionId := shows_withBaggage baggage (by decide) shows.sessionId
    name := shows_withBaggage baggage (by decide) shows.name
    status := shows_withBaggage baggage (by decide) shows.status
    classname := showsOr_withBaggage baggage (by decide) shows.classname
    testsuite := showsOr_withBaggage baggage (by decide) shows.testsuite
    file := showsOr_withBaggage baggage (by decide) shows.file
    output := showsOr_withBaggage baggage (by decide) shows.output
    baggage := showsOr_baggage isBaggage shows.baggage
    labels := showsOr_withBaggage baggage (by decide) shows.labels
    createdAt := shows_withBaggage baggage (by decide) shows.createdAt }

theorem carriesBaggage_sessionDetail {row : Cells} {detail : SessionDetail}
    (decoded : SessionDetail.decode (.object row) = .ok detail) :
    CarriesBaggage SessionDetail.decode (fun baggage => { detail with baggage := baggage })
      row := by
  intro baggage result isBaggage
  have shows := sessionDetail_decode_iff.mp decoded
  apply sessionDetail_decode_iff.mpr
  exact {
    id := shows_withBaggage baggage (by decide) shows.id
    description := showsOr_withBaggage baggage (by decide) shows.description
    status := showsOr_withBaggage baggage (by decide) shows.status
    baggage := showsOr_baggage isBaggage shows.baggage
    labels := showsOr_withBaggage baggage (by decide) shows.labels
    createdAt := shows_withBaggage baggage (by decide) shows.createdAt }

/-! ## What records show -/

section

variable {α : Type} {decode : Decoder α} {toJson : α → Json} {put : Option Json → α} {row : Cells}

theorem CarriesBaggage.sameAsText (carries : CarriesBaggage decode put row)
    (empty : toJson (put none) = toJson (put (some .null))) {value : Json} {text : String}
    (noString : ∀ content, value ≠ .string content)
    (jsonText : JsonText depthLimit text.toList value) :
    SameAsText decode toJson put row value text := by
  have asText := carries _ _ (.spelled jsonText)
  by_cases isNull : value = .null
  · subst isNull
    exact ⟨_, _, carries _ _ .null, asText, rfl, empty⟩
  · exact ⟨_, _, carries _ _ (.value isNull noString), asText, rfl, rfl⟩

theorem CarriesBaggage.baggageShown (carries : CarriesBaggage decode put row)
    (empty : toJson (put none) = toJson (put (some .null))) :
    BaggageShown decode toJson put row where
  written _ plain room noString :=
    carries.sameAsText empty noString (plain.jsonText_compact room)
  spelled _ _ noString jsonText := carries.sameAsText empty noString jsonText
  dropped _ spellsNone := carries _ _ (.dropped spellsNone)

end

/-- Whatever row a record is decoded from, it shows the same baggage whether that comes as a JSON
value or as the text of one, and baggage that is no JSON text costs it only the baggage. -/
theorem baggage_as_value_or_text (row : Cells) :
    (∀ detail, TestcaseDetail.decode (.object row) = .ok detail →
      BaggageShown TestcaseDetail.decode TestcaseDetail.toJson
        (fun baggage => { detail with baggage := baggage }) row) ∧
    (∀ detail, SessionDetail.decode (.object row) = .ok detail →
      BaggageShown SessionDetail.decode SessionDetail.toJson
        (fun baggage => { detail with baggage := baggage }) row) := by
  constructor
  · intro detail decoded
    exact (carriesBaggage_testcaseDetail decoded).baggageShown rfl
  · intro detail decoded
    exact (carriesBaggage_sessionDetail decoded).baggageShown rfl

/-- The row of a testcase, which is one for a session too, with baggage that is replaced. -/
def burdenedRow : Cells :=
  [("baggage", .bool true), ("created_at", .string "2025-01-01 00:00:00"),
    ("id", .string "00000000-0000-0000-0000-000000000000"), ("name", .string "test_login"),
    ("session_id", .string "00000000-0000-0000-0000-000000000000"), ("status", .int 2)]

/-- A value with the least and the greatest number, an empty object, and a key that has to be
escaped and ends beyond the basic plane. -/
def heavyBaggage : Json :=
  .object [("\"\n😀", .array [.int minInt64, .int maxNat64, .null]), ("é", .object [])]

theorem plain_heavyBaggage : Plain heavyBaggage := by
  have numbers : ∀ item ∈ [Json.int minInt64, .int maxNat64, .null], Plain item :=
    List.forall_mem_cons.mpr ⟨.int (by decide) (by decide), List.forall_mem_cons.mpr
      ⟨.int (by decide) (by decide), List.forall_mem_singleton.mpr .null⟩⟩
  have nothing : Plain (.object []) := .object .nil (List.forall_mem_nil _)
  have ordered : Ordered [("\"\n😀", Json.array [.int minInt64, .int maxNat64, .null]),
      ("é", .object [])] :=
    .cons (List.forall_mem_singleton.mpr (by decide)) (List.pairwise_singleton _ _)
  exact .object ordered (List.forall_mem_cons.mpr
    ⟨.array numbers, List.forall_mem_singleton.mpr nothing⟩)

/-- The testcase shows the value either way.  A comma too many makes the text no JSON, and the
session has no baggage. -/
theorem baggage_as_value_or_text_heavy :
    (∃ asValue asText,
      TestcaseDetail.decode (.object (withBaggage heavyBaggage burdenedRow)) = .ok asValue ∧
      TestcaseDetail.decode (.object (withBaggage (.string heavyBaggage.compact) burdenedRow)) =
        .ok asText ∧
      asText.baggage = some heavyBaggage ∧ asValue.toJson = asText.toJson) ∧
    ∃ asText, SessionDetail.decode
        (.object (withBaggage (.string "\x7b\"retries\":2,\x7d") burdenedRow)) = .ok asText ∧
      asText.baggage = none := by
  have testcase : ∃ detail, TestcaseDetail.decode (.object burdenedRow) = .ok detail := ⟨_, rfl⟩
  have session : ∃ detail, SessionDetail.decode (.object burdenedRow) = .ok detail := ⟨_, rfl⟩
  rcases testcase with ⟨testcase, testcaseDecoded⟩
  rcases session with ⟨session, sessionDecoded⟩
  have shown := baggage_as_value_or_text burdenedRow
  constructor
  · have noString : ∀ content, heavyBaggage ≠ .string content := by
      intro content same
      cases same
    rcases (shown.1 testcase testcaseDecoded).written heavyBaggage plain_heavyBaggage (by decide)
      noString with ⟨asValue, asText, valueDecoded, textDecoded, rfl, same⟩
    exact ⟨asValue, _, valueDecoded, textDecoded, rfl, same⟩
  · have spellsNone : ∀ value, ¬ JsonText depthLimit "\x7b\"retries\":2,\x7d".toList value := by
      intro value jsonText
      have read := read?_eq_some_iff.mpr jsonText
      have unread : (read? "\x7b\"retries\":2,\x7d").isNone = true := by decide +kernel
      rw [read] at unread
      cases unread
    exact ⟨_, (shown.2 session sessionDecoded).dropped _ spellsNone, rfl⟩

end Record
end TestQuery
