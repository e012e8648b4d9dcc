import TestQuery.Proofs.Json.Skipping
import TestQuery.Settings.Reading
import Mathlib.Data.List.Duplicate

namespace TestQuery
namespace Settings

open Json

/-!
# Records in a text

A record is written as an object.  Its fields may come in any order and some or all of them may
be absent; between them there may be members that the record does not have, with values of any
kind.  Such an object is read by going through its members: each changes the record or is passed
over, and the first field that is there for a second time refuses the text.
-/

/-! ## Texts of records -/

/-- A member of the text of a record: a field with what it says, or a member that the record
does not have. -/
inductive Entry (φ : Type) where
  | field (content : φ)
  | other (key : String)

/-- What the fields of a record are called, and how they are written. -/
structure Form (φ : Type) where
  names : List String
  key : φ → String
  value : List Char → φ → Prop

section

variable {φ : Type} (form : Form φ)

/-- What a key and the text of a value say. -/
inductive Form.Says : String → List Char → Entry φ → Prop where
  | field {text : List Char} {content : φ} (written : form.value text content) :
      Form.Says (form.key content) text (.field content)
  | other {key : String} {text : List Char} (unknown : key ∉ form.names)
      (spelled : Spelled .value text) : Form.Says key text (.other key)

/-- A member, with the layout behind it. -/
inductive Form.Member : List Char → Entry φ → Prop where
  | mk {quoted between before text after : List Char} {key : String} {entry : Entry φ}
      (isKey : QuotedText quoted key) (blankBetween : Gap between) (blankBefore : Gap before)
      (isValue : form.Says key text entry) (blank : Gap after) :
      Form.Member (quoted ++ (between ++ ':' :: (before ++ (text ++ after)))) entry

/-- One member or more, with commas between them. -/
inductive Form.Members : List Char → List (Entry φ) → Prop where
  | last {text : List Char} {entry : Entry φ} (member : form.Member text entry) :
      Form.Members text [entry]
  | more {text gap others : List Char} {entry : Entry φ} {entries : List (Entry φ)}
      (member : form.Member text entry) (blank : Gap gap) (members : Form.Members others entries) :
      Form.Members (text ++ ',' :: (gap ++ others)) (entry :: entries)

/-- The object of a record. -/
inductive Form.Object : List Char → List (Entry φ) → Prop where
  | empty {gap : List Char} (blank : Gap gap) : Form.Object ('\x7b' :: (gap ++ ['\x7d'])) []
  | members {gap text : List Char} {entries : List (Entry φ)} (blank : Gap gap)
      (members : form.Members text entries) :
      Form.Object ('\x7b' :: (gap ++ (text ++ ['\x7d']))) entries

end

/-- The fields among the members. -/
def contents {φ : Type} (entries : List (Entry φ)) : List φ :=
  entries.filterMap fun
    | .field content => some content
    | .other _ => none

def Form.keys {φ : Type} (form : Form φ) (entries : List (Entry φ)) : List String :=
  (contents entries).map form.key

/-! ## Reading strings -/

theorem takes_mark {gap : List Char} (blank : Gap gap) {c : Char} (solid : isLayout c = false) :
    (mark c).Takes (gap ++ [c]) () := by
  have taken : (afterLayout fun other => if other = c then some () else none).toReader.Takes
      (gap ++ [c]) () := takes_afterLayout blank solid (if_pos rfl)
  exact taken.mapError

theorem takes_quotedText {gap text : List Char} {content : String} (blank : Gap gap)
    (quoted : QuotedText text content) : quotedText.toReader.Takes (gap ++ text) content := by
  cases quoted with
  | @mk body content isBody =>
      have quote : (jsonSome
          (afterLayout fun c => if c = '"' then some () else none)).toReader.Takes
          (gap ++ ['"']) () := takes_mark blank rfl
      have meant : (json Leaves.exact.string).Takes body (String.ofList content) :=
        (takes_string (fun _ _ => takes_escape) isBody).mapError
      intro rest
      have shape : gap ++ '"' :: body ++ rest = (gap ++ ['"']) ++ (body ++ rest) := by
        simp
      rw [shape]
      exact (Reader.run_bind_of_ok (quote _)).trans (meant rest)

theorem run_json_layout {gap : List Char} (blank : Gap gap) {c : Char} (solid : isLayout c = false)
    (rest : List Char) : (json layout).run (gap ++ c :: rest) = .ok ((), c :: rest) := by
  change (layout.run (gap ++ c :: rest)).mapError Refusal.text = _
  rw [run_layout blank solid]
  rfl

/-- The first character after layout chooses how a value is read. -/
theorem run_byFirst {α : Type} (chosen : Char → SettingsConsumer α) {gap : List Char}
    (blank : Gap gap) {c : Char} (solid : isLayout c = false) (rest : List Char) :
    (byFirst chosen).run (gap ++ c :: rest) = (chosen c).run (c :: rest) := by
  exact Reader.run_bind_of_ok (run_json_layout blank solid rest)

theorem takes_textValue {gap text : List Char} {content : String} (blank : Gap gap)
    (quoted : QuotedText text content) : textValue.toReader.Takes (gap ++ text) content := by
  intro rest
  have read := takes_quotedText gap_nil quoted rest
  cases quoted with
  | mk isBody =>
      rw [List.append_assoc]
      exact (run_byFirst _ blank rfl _).trans read

theorem takes_dialectValue {gap text : List Char} {dialect : Sql.Dialect} (blank : Gap gap)
    (quoted : QuotedText text dialect.name) :
    dialectValue.toReader.Takes (gap ++ text) dialect := by
  intro rest
  have named : dialectNamed dialect.name = pure dialect := by cases dialect <;> rfl
  have read := (takes_quotedText gap_nil quoted).bind_pure named rest
  generalize dialect.name = name at quoted
  cases quoted with
  | mk isBody =>
      rw [List.append_assoc]
      exact (run_byFirst _ blank rfl _).trans read

/-! ## Reading members -/

section

variable {φ α : Type}

/-- What a member does to a record, where the fields in `seen` were there before it. -/
def Form.step (form : Form φ) (effect : φ → α → Except Refusal α) (state : List String × α) :
    Entry φ → Except Refusal (List String × α)
  | .other _ => .ok state
  | .field content =>
    if form.key content ∈ state.1 then .error (.value (.duplicateField (form.key content)))
    else (effect content state.2).map fun changed => (form.key content :: state.1, changed)

/-- The record is written in the form: the names are its fields, and what is written for a field
has the given effect. -/
structure Written (schema : Schema α) (form : Form φ) (effect : φ → α → Except Refusal α) :
    Prop where
  names : form.names = schema.fields.map (·.name)
  read : ∀ content, ∃ field, schema.fields.find? (·.name == form.key content) = some field ∧
    ∀ text record gap rest, form.value text content → Gap gap →
      (field.read record).run (gap ++ (text ++ rest)) = (effect content record).map (·, rest)

variable {schema : Schema α} {form : Form φ} {effect : φ → α → Except Refusal α}

theorem find?_of_unknown {key : String} (unknown : key ∉ schema.fields.map (·.name)) :
    schema.fields.find? (·.name == key) = none := by
  apply List.find?_eq_none.mpr
  intro field member same
  exact unknown (List.mem_map.mpr ⟨field, member, eq_of_beq same⟩)

/-- A member is read up to the layout behind it. -/
theorem run_member (written : Written schema form effect) {text : List Char} {entry : Entry φ}
    (member : form.Member text entry) :
    ∃ after, Gap after ∧ ∀ state gap mark rest, Gap gap → mark = ',' ∨ mark = '\x7d' →
      (schema.member state).run (gap ++ (text ++ mark :: rest)) =
        (form.step effect state entry).map (·, after ++ mark :: rest) := by
  cases member with
  | @mk quoted between before text after key entry isKey blankBetween blankBefore isValue blank =>
      refine ⟨after, blank, ?_⟩
      rintro ⟨seen, record⟩ gap mark rest blankGap isMark
      have shape :
          gap ++ (quoted ++ (between ++ ':' :: (before ++ (text ++ after))) ++ mark :: rest) =
            (gap ++ quoted) ++
              ((between ++ [':']) ++ (before ++ (text ++ (after ++ mark :: rest)))) := by
        simp
      have colon := takes_mark blankBetween (c := ':') rfl
      rw [shape]
      apply (Reader.run_bind_of_ok (takes_quotedText blankGap isKey _)).trans
      cases isValue with
      | @field text content isContent =>
          rcases written.read content with ⟨field, found, fieldRead⟩
          dsimp only
          rw [found, Form.step]
          by_cases repeated : form.key content ∈ seen
          · rw [if_pos repeated]
            dsimp only
            rw [if_pos repeated]
            rfl
          · rw [if_neg repeated]
            dsimp only
            rw [if_neg repeated]
            apply (Reader.run_bind_of_ok (colon _)).trans
            rw [Reader.run_bind, fieldRead text record before _ isContent blankBefore]
            cases effect content record <;> rfl
      | @other key text unknown spelled =>
          rw [written.names] at unknown
          dsimp only
          rw [find?_of_unknown unknown, Form.step]
          have ends : EndsValue (after ++ mark :: rest) :=
            @endsValue_gap after blank true mark isMark rest
          have passed : (json skipped).run (before ++ (text ++ (after ++ mark :: rest))) =
              .ok ((), after ++ mark :: rest) := by
            change (skipped.run _).mapError Refusal.text = _
            rw [run_skipped blankBefore spelled ends]
            rfl
          apply (Reader.run_bind_of_ok (colon _)).trans
          exact Reader.run_bind_of_ok passed

theorem takes_another_member {gap : List Char} (blank : Gap gap) :
    (json (another '\x7d')).Takes (gap ++ [',']) true ∧
      (json (another '\x7d')).Takes (gap ++ ['\x7d']) false := by
  rcases takes_another blank true with ⟨continues, ends⟩
  exact ⟨continues.mapError, ends.mapError⟩

/-- Members are read one after the other, each from where the one before it has led. -/
theorem run_members (written : Written schema form effect) {text : List Char}
    {entries : List (Entry φ)} (members : form.Members text entries) (state : List String × α)
    {gap : List Char} (blank : Gap gap) (rest : List Char) :
    Reader.accumulateRun schema.member (json (another '\x7d')) state
        (gap ++ (text ++ '\x7d' :: rest)) =
      (entries.foldlM (form.step effect) state).map (·, rest) := by
  induction members generalizing state gap with
  | @last text entry member =>
      rcases run_member written member with ⟨after, blankAfter, read⟩
      have ends := (takes_another_member blankAfter).2 rest
      rw [List.append_assoc] at ends
      rw [Reader.accumulateRun_eq, read state gap '\x7d' rest blank (.inr rfl), List.foldlM_cons]
      cases form.step effect state entry with
      | error refusal => rfl
      | ok reached =>
          change (json (another '\x7d').toReader).run (after ++ (['\x7d'] ++ rest)) >>= _ = _
          rw [ends]
          rfl
  | @more text between others entry entries member blankBetween members inductionHypothesis =>
      rcases run_member written member with ⟨after, blankAfter, read⟩
      have continues := (takes_another_member blankAfter).1 (between ++ (others ++ '\x7d' :: rest))
      rw [List.append_assoc] at continues
      have shape : text ++ ',' :: (between ++ others) ++ '\x7d' :: rest =
          text ++ ',' :: (between ++ (others ++ '\x7d' :: rest)) := by
        simp
      rw [shape, Reader.accumulateRun_eq, read state gap ',' _ blank (.inl rfl), List.foldlM_cons]
      cases form.step effect state entry with
      | error refusal => rfl
      | ok reached =>
          change (json (another '\x7d').toReader).run (after ++ ([','] ++
            (between ++ (others ++ '\x7d' :: rest)))) >>= _ = _
          rw [continues]
          exact inductionHypothesis reached blankBetween

theorem Form.Members.begins {text : List Char} {entries : List (Entry φ)}
    (members : form.Members text entries) : Begins text := by
  have ofMember {text : List Char} {entry : Entry φ} (member : form.Member text entry) :
      Begins text := by
    rcases member with ⟨⟨isBody⟩, -, -, -, -⟩
    exact begins_cons rfl (by decide) (by decide) _
  cases members with
  | last member => exact ofMember member
  | more member blank members => exact (ofMember member).append _

/-- The object of a record is read as its members say. -/
theorem run_object (written : Written schema form effect) {text : List Char}
    {entries : List (Entry φ)} (object : form.Object text entries) (record : α)
    {gap : List Char} (blank : Gap gap) (rest : List Char) :
    (schema.read record).run (gap ++ (text ++ rest)) =
      (entries.foldlM (form.step effect) ([], record)).map fun state => (state.2, rest) := by
  have opened (inside : List Char) : (schema.read record).run (gap ++ ('\x7b' :: inside)) =
      (schema.members record).run inside := by
    apply (run_byFirst _ blank rfl _).trans
    have brace : (jsonSome anyChar).toReader.Takes ['\x7b'] '\x7b' :=
      (takes_anyChar '\x7b').mapError
    exact Reader.run_bind_of_ok (brace inside)
  cases object with
  | @empty inside blankInside =>
      have shape : '\x7b' :: (inside ++ ['\x7d']) ++ rest =
          '\x7b' :: (inside ++ '\x7d' :: rest) := by
        simp
      rw [shape, opened]
      apply (Reader.run_bind_of_ok (run_json_layout blankInside rfl rest)).trans
      apply (Reader.run_bind_of_ok (Reader.run_peek _)).trans
      rfl
  | @members inside text entries blankInside members =>
      have shape : '\x7b' :: (inside ++ (text ++ ['\x7d'])) ++ rest =
          '\x7b' :: (inside ++ (text ++ '\x7d' :: rest)) := by
        simp
      have read := run_members written members ([], record) gap_nil rest
      rw [shape, opened]
      rcases members.begins with ⟨c, others, rfl, solid, noEnding⟩
      have notEmpty : some c ≠ some '\x7d' := fun same => noEnding true (Option.some.inj same)
      apply (Reader.run_bind_of_ok (run_json_layout blankInside solid _)).trans
      apply (Reader.run_bind_of_ok (Reader.run_peek _)).trans
      have accumulated : (Reader.accumulate schema.member (json (another '\x7d')) ([], record)).run
          (c :: others ++ '\x7d' :: rest) = _ := read
      change Reader.run (if some c = some '\x7d' then _ else _) (c :: others ++ '\x7d' :: rest) = _
      rw [if_neg notEmpty, Reader.run_bind, accumulated]
      cases entries.foldlM (form.step effect) ([], record) <;> rfl

end

/-! ## What comes of the members -/

section

variable {φ α : Type} {form : Form φ} {effect : φ → α → Except Refusal α} {change : φ → α → α}
  {repeats : φ → String → Prop}

/-- What is written for a field changes the record, unless a key is repeated in it. -/
def Changes (effect : φ → α → Except Refusal α) (change : φ → α → α)
    (repeats : φ → String → Prop) : Prop :=
  ∀ content record,
    ((∀ key, ¬ repeats content key) ∧ effect content record = .ok (change content record)) ∨
      ∃ key, repeats content key ∧ effect content record = .error (.value (.duplicateField key))

/-- The key is that of two fields, or it is repeated in what is written for a field. -/
def Form.Repeats (form : Form φ) (repeats : φ → String → Prop) (entries : List (Entry φ))
    (key : String) : Prop :=
  (form.keys entries).Duplicate key ∨ ∃ content ∈ contents entries, repeats content key

theorem repeats_cons_iff {content : φ} {entries : List (Entry φ)} {key : String} :
    form.Repeats repeats (.field content :: entries) key ↔
      (form.key content = key ∧ key ∈ form.keys entries) ∨ repeats content key ∨
        form.Repeats repeats entries key := by
  have both : form.Repeats repeats (.field content :: entries) key ↔
      (form.key content :: form.keys entries).Duplicate key ∨
        ∃ other ∈ content :: contents entries, repeats other key := Iff.rfl
  rw [both, List.duplicate_cons_iff, List.exists_mem_cons_iff, Form.Repeats]
  constructor
  · rintro ((first | twice) | (here | later))
    · exact .inl first
    · exact .inr (.inr (.inl twice))
    · exact .inr (.inl here)
    · exact .inr (.inr (.inr later))
  · rintro (first | here | (twice | later))
    · exact .inl (.inl first)
    · exact .inr (.inl here)
    · exact .inl (.inr twice)
    · exact .inr (.inr later)

theorem not_repeats_iff {entries : List (Entry φ)} :
    (∀ key, ¬ form.Repeats repeats entries key) ↔ (form.keys entries).Nodup ∧
      ∀ content ∈ contents entries, ∀ key, ¬ repeats content key := by
  rw [List.nodup_iff_forall_not_duplicate]
  constructor
  · intro once
    exact ⟨fun key twice => once key (.inl twice),
      fun content member key repeated => once key (.inr ⟨content, member, repeated⟩)⟩
  · rintro ⟨once, sound⟩ key (twice | ⟨content, member, repeated⟩)
    · exact once key twice
    · exact sound content member key repeated

/-- The record after all changes. -/
def changed (change : φ → α → α) (record : α) (entries : List (Entry φ)) : α :=
  (contents entries).foldl (fun record content => change content record) record

/-- The members change the record one after the other, or the first key that is there again
refuses them.  A key may be in `seen` already. -/
theorem foldlM_step (changes : Changes effect change repeats) (entries : List (Entry φ))
    (seen : List String) (record : α) :
    ((∀ key, ¬ form.Repeats repeats entries key) ∧ (∀ key ∈ form.keys entries, key ∉ seen) ∧
      ∃ all, entries.foldlM (form.step effect) (seen, record) =
        .ok (all, changed change record entries)) ∨
    ∃ key, (form.Repeats repeats entries key ∨ key ∈ form.keys entries ∧ key ∈ seen) ∧
      entries.foldlM (form.step effect) (seen, record) = .error (.value (.duplicateField key)) := by
  induction entries generalizing seen record with
  | nil =>
      refine .inl ⟨?_, List.forall_mem_nil _, seen, rfl⟩
      rintro key (repeated | ⟨content, member, -⟩)
      · exact List.not_duplicate_nil key repeated
      · exact List.not_mem_nil member
  | cons entry entries inductionHypothesis =>
      cases entry with
      | other key => exact inductionHypothesis seen record
      | field content =>
          rw [List.foldlM_cons, Form.step]
          by_cases again : form.key content ∈ seen
          · refine .inr ⟨form.key content, .inr ⟨List.mem_cons_self, again⟩, ?_⟩
            rw [if_pos again]
            rfl
          · rw [if_neg again]
            rcases changes content record with ⟨sound, success⟩ | ⟨key, repeated, failure⟩
            · rw [success]
              rcases inductionHypothesis (form.key content :: seen) (change content record) with
                ⟨once, unseen, all, done⟩ | ⟨key, repeated, failure⟩
              · refine .inl ⟨fun key repeated => ?_, fun key member before => ?_, all, done⟩
                · rcases repeats_cons_iff.mp repeated with ⟨rfl, member⟩ | here | later
                  · exact unseen _ member List.mem_cons_self
                  · exact sound key here
                  · exact once key later
                · rcases List.mem_cons.mp member with rfl | member
                  · exact again before
                  · exact unseen key member (List.mem_cons_of_mem _ before)
              · refine .inr ⟨key, ?_, failure⟩
                rcases repeated with later | ⟨member, before⟩
                · exact .inl (repeats_cons_iff.mpr (.inr (.inr later)))
                · rcases List.mem_cons.mp before with rfl | before
                  · exact .inl (repeats_cons_iff.mpr (.inl ⟨rfl, member⟩))
                  · exact .inr ⟨List.mem_cons_of_mem _ member, before⟩
            · refine .inr ⟨key, .inl (repeats_cons_iff.mpr (.inr (.inl repeated))), ?_⟩
              rw [failure]
              rfl

/-- All members together change the record, or a key that is repeated refuses them. -/
theorem foldlM_step_nil (changes : Changes effect change repeats) (entries : List (Entry φ))
    (record : α) :
    ((∀ key, ¬ form.Repeats repeats entries key) ∧
      ∃ all, entries.foldlM (form.step effect) ([], record) =
        .ok (all, changed change record entries)) ∨
    ∃ key, form.Repeats repeats entries key ∧
      entries.foldlM (form.step effect) ([], record) = .error (.value (.duplicateField key)) := by
  rcases foldlM_step changes entries [] record with
    ⟨once, -, done⟩ | ⟨key, repeated | ⟨-, before⟩, failure⟩
  · exact .inl ⟨once, done⟩
  · exact .inr ⟨key, repeated, failure⟩
  · exact absurd before List.not_mem_nil

/-- Where no field is there twice, each part of the record is what its field says, or what it
was. -/
theorem get_changed {β : Type} (get : α → β) (told? : φ → Option β)
    (changes : ∀ content record, get (change content record) = (told? content).getD (get record))
    (sameKey : ∀ first second, (told? first).isSome = true → (told? second).isSome = true →
      form.key first = form.key second)
    {entries : List (Entry φ)} (once : (form.keys entries).Nodup) (record : α) :
    get (changed change record entries) =
      ((contents entries).findSome? told?).getD (get record) := by
  unfold changed
  unfold Form.keys at once
  generalize contents entries = fields at once
  induction fields generalizing record with
  | nil => rfl
  | cons content fields inductionHypothesis =>
      rw [List.map_cons, List.nodup_cons] at once
      rw [List.foldl_cons, inductionHypothesis _ once.2, changes, List.findSome?_cons]
      cases said : told? content with
      | none => rfl
      | some value =>
          have noOther : fields.findSome? told? = none := by
            apply List.findSome?_eq_none_iff.mpr
            intro other member
            by_contra alsoSaid
            have same := sameKey content other (Option.isSome_of_eq_some said)
              (Option.isSome_iff_ne_none.mpr alsoSaid)
            exact once.1 (same ▸ List.mem_map_of_mem member)
          rw [noOther]
          rfl

end

/-! ## Records that are written -/

section

variable {φ : Type} {form : Form φ}

/-- The text of a member, up to its value. -/
def Form.Field (form : Form φ) (colon : String) (field : String) (entry : Entry φ) : Prop :=
  ∃ key value, field = writtenString key ++ colon ++ value ∧ form.Says key value.toList entry

theorem Form.field_written {content : φ} {value : String}
    (written : form.value value.toList content) (colon : String) :
    form.Field colon (writtenString (form.key content) ++ colon ++ value) (.field content) :=
  ⟨_, _, rfl, .field written⟩

theorem Form.Field.member {colon field : String} {before after : List Char} {entry : Entry φ}
    (isColon : colon.toList = ':' :: before) (blankBefore : Gap before) (blank : Gap after)
    (isField : form.Field colon field entry) : form.Member (field.toList ++ after) entry := by
  rcases isField with ⟨key, value, rfl, isValue⟩
  have member := Form.Member.mk (quotedText_writtenString key) gap_nil blankBefore isValue blank
  rw [String.toList_append, String.toList_append, isColon]
  simpa using member

/-- Fields with commas between them are the members of an object. -/
theorem members_of_fields {separator colon : String} {before between : List Char}
    (isSeparator : separator.toList = ',' :: between) (isColon : colon.toList = ':' :: before)
    (blankBetween : Gap between) (blankBefore : Gap before) {fields : List String}
    {entries : List (Entry φ)} (areFields : List.Forall₂ (form.Field colon) fields entries)
    (nonempty : fields ≠ []) {after : List Char} (blank : Gap after) :
    form.Members ((joined separator fields).toList ++ after) entries := by
  induction areFields with
  | nil => exact absurd rfl nonempty
  | @cons field entry fields entries isField areFields inductionHypothesis =>
      cases areFields with
      | nil => exact .last (isField.member isColon blankBefore blank)
      | @cons second next others rest isSecond areOthers =>
          have member := isField.member isColon blankBefore gap_nil
          have members := inductionHypothesis (List.cons_ne_nil second others)
          have shape : (joined separator (field :: second :: others)).toList ++ after =
              (field.toList ++ []) ++ ',' :: (between ++
                ((joined separator (second :: others)).toList ++ after)) := by
            simp [joined, isSeparator]
          rw [shape]
          exact .more member blankBetween members

theorem object_of_fields {separator colon : String} {first before between last : List Char}
    (isSeparator : separator.toList = ',' :: between) (isColon : colon.toList = ':' :: before)
    (blanks : Gap first ∧ Gap before ∧ Gap between ∧ Gap last) {fields : List String}
    {entries : List (Entry φ)} (areFields : List.Forall₂ (form.Field colon) fields entries)
    (nonempty : fields ≠ []) :
    form.Object ('\x7b' :: (first ++ ((joined separator fields).toList ++ last ++ ['\x7d'])))
      entries := by
  rcases blanks with ⟨blankFirst, blankBefore, blankBetween, blankLast⟩
  exact .members blankFirst
    (members_of_fields isSeparator isColon blankBetween blankBefore areFields nonempty blankLast)

end

end Settings
end TestQuery
