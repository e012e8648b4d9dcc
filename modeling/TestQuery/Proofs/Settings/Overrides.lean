import TestQuery.Json.Writer
import TestQuery.Proofs.Settings.Entries

namespace TestQuery
namespace Settings

open Json

/-!
# What a text overrides

A settings text changes exactly what is present in it.  The fields of the settings and the names
of the tables may be there or not, in any order, with any layout and any escapes, and with
members of any kind between them; what is there holds, and what is not keeps its default.  A
field that is there twice refuses the text.  What is written of settings is such a text, so it is
read as the same settings.
-/

/-! ## The names of tables -/

def tableKey : Sql.Table → String
  | .sessions => "sessions"
  | .testcases => "testcases"
  | .labels => "labels"

/-- Names of tables are strings. -/
def tablesForm : Form (Sql.Table × String) where
  names := ["sessions", "testcases", "labels"]
  key content := tableKey content.1
  value text content := QuotedText text content.2

abbrev TablesEntry := Entry (Sql.Table × String)

/-- Put a name in the place of a table's. -/
def rename (content : Sql.Table × String) (names : Sql.TableNames) : Sql.TableNames :=
  match content.1 with
  | .sessions => { names with sessions := content.2 }
  | .testcases => { names with testcases := content.2 }
  | .labels => { names with labels := content.2 }

def nameOf? (table : Sql.Table) (content : Sql.Table × String) : Option String :=
  if content.1 = table then some content.2 else none

/-- The names of the tables, where those that are absent are the usual ones. -/
def tablesOf (entries : List TablesEntry) : Sql.TableNames where
  sessions := ((contents entries).findSome? (nameOf? .sessions)).getD "sessions"
  testcases := ((contents entries).findSome? (nameOf? .testcases)).getD "testcases"
  labels := ((contents entries).findSome? (nameOf? .labels)).getD "labels"

/-- A key is there twice among the names of tables. -/
def TablesRepeat : List TablesEntry → String → Prop :=
  tablesForm.Repeats fun _ _ => False

theorem tables_written : Written tablesSchema tablesForm fun content names =>
    .ok (rename content names) where
  names := rfl
  read := by
    rintro ⟨table, name⟩
    cases table <;> refine ⟨_, rfl, fun text names gap rest quoted blank => ?_⟩ <;>
      rw [← List.append_assoc] <;>
      exact Reader.run_bind_of_ok (takes_textValue blank quoted rest)

theorem tables_change : Changes (fun content names => .ok (rename content names)) rename
    (fun (_ : Sql.Table × String) _ => False) :=
  fun _ _ => .inl ⟨fun _ => id, rfl⟩

theorem tables_changed {entries : List TablesEntry} (once : (tablesForm.keys entries).Nodup) :
    changed rename {} entries = tablesOf entries := by
  have renamed (table : Sql.Table) : (changed rename {} entries).get table =
      ((contents entries).findSome? (nameOf? table)).getD (Sql.TableNames.get {} table) := by
    refine get_changed (fun names => Sql.TableNames.get names table) (nameOf? table) ?_ ?_ once {}
    · rintro ⟨given, name⟩ names
      cases given <;> cases table <;> rfl
    · intro first second firstNames secondNames
      simp only [nameOf?] at firstNames secondNames
      split at firstNames
      · split at secondNames
        · rename_i isFirst isSecond
          change tableKey first.1 = tableKey second.1
          rw [isFirst, isSecond]
        · cases secondNames
      · cases firstNames
  have sessions := renamed .sessions
  have testcases := renamed .testcases
  have labels := renamed .labels
  cases names : changed rename {} entries with
  | mk first second third =>
      rw [names] at sessions testcases labels
      exact Sql.TableNames.mk.injEq .. ▸ ⟨sessions, testcases, labels⟩

/-- The names of tables are read as they are written, or a key is there twice. -/
theorem tables_outcome (entries : List TablesEntry) :
    ((∀ key, ¬ TablesRepeat entries key) ∧ ∃ all, entries.foldlM
        (tablesForm.step fun content names => .ok (rename content names)) ([], {}) =
      .ok (all, tablesOf entries)) ∨
    ∃ key, TablesRepeat entries key ∧ entries.foldlM
        (tablesForm.step fun content names => .ok (rename content names)) ([], {}) =
      .error (.value (.duplicateField key)) := by
  rcases foldlM_step_nil tables_change entries {} with ⟨once, all, done⟩ | refused
  · rw [tables_changed (not_repeats_iff.mp once).1] at done
    exact .inl ⟨once, all, done⟩
  · exact .inr refused

/-! ## The settings -/

/-- What is written for a field of the settings. -/
inductive Content where
  | dialect (dialect : Sql.Dialect)
  | tables (entries : List TablesEntry)

namespace Content

def key : Content → String
  | .dialect _ => "dialect"
  | .tables _ => "tables"

def dialect? : Content → Option Sql.Dialect
  | .dialect given => some given
  | .tables _ => none

def tables? : Content → Option Sql.TableNames
  | .dialect _ => none
  | .tables entries => some (tablesOf entries)

/-- A dialect is written by its name, the names of tables as an object. -/
def Text : List Char → Content → Prop
  | text, .dialect given => QuotedText text given.name
  | text, .tables entries => tablesForm.Object text entries

/-- A key is there twice within the field. -/
def Repeats : Content → String → Prop
  | .dialect _, _ => False
  | .tables entries, key => TablesRepeat entries key

/-- Put what is written for the field in its place. -/
def change : Content → Settings → Settings
  | .dialect given, settings => { settings with dialect := given }
  | .tables entries, settings => { settings with tables := tablesOf entries }

/-- Read what is written for the field. -/
def effect : Content → Settings → Except Refusal Settings
  | .dialect given, settings => .ok { settings with dialect := given }
  | .tables entries, settings =>
    (entries.foldlM (tablesForm.step fun content names => .ok (rename content names))
      ([], {})).map fun state => { settings with tables := state.2 }

end Content

/-- The form of the settings. -/
def form : Form Content where
  names := ["dialect", "tables"]
  key := Content.key
  value := Content.Text

/-- A settings text and its members. -/
inductive SettingsText : List Char → List (Entry Content) → Prop where
  | mk {before text after : List Char} {entries : List (Entry Content)} (blankBefore : Gap before)
      (object : form.Object text entries) (blankAfter : Gap after) :
      SettingsText (before ++ (text ++ after)) entries

/-- The settings, where what is absent has its default. -/
def settingsOf (entries : List (Entry Content)) : Settings where
  dialect := ((contents entries).findSome? Content.dialect?).getD .postgres
  tables := ((contents entries).findSome? Content.tables?).getD {}

theorem settings_written : Written schema form Content.effect where
  names := rfl
  read := by
    intro content
    cases content with
    | dialect dialect =>
        refine ⟨_, rfl, fun text settings gap rest quoted blank => ?_⟩
        rw [← List.append_assoc]
        exact Reader.run_bind_of_ok (takes_dialectValue blank quoted rest)
    | tables entries =>
        refine ⟨_, rfl, fun text settings gap rest object blank => ?_⟩
        have read := run_object tables_written object {} blank rest
        change ((tablesSchema.read {}).toReader >>= _).run (gap ++ (text ++ rest)) = _
        rw [Reader.run_bind, read, Content.effect]
        cases entries.foldlM (tablesForm.step fun content names => .ok (rename content names))
          ([], {}) <;> rfl

theorem settings_change : Changes Content.effect Content.change Content.Repeats := by
  intro content settings
  cases content with
  | dialect dialect => exact .inl ⟨fun _ => id, rfl⟩
  | tables entries =>
      rcases tables_outcome entries with ⟨once, all, done⟩ | ⟨key, repeated, failure⟩
      · refine .inl ⟨once, ?_⟩
        rw [Content.effect, done]
        rfl
      · refine .inr ⟨key, repeated, ?_⟩
        rw [Content.effect, failure]
        rfl

theorem settings_changed {entries : List (Entry Content)} (once : (form.keys entries).Nodup) :
    changed Content.change {} entries = settingsOf entries := by
  have dialect : (changed Content.change {} entries).dialect =
      ((contents entries).findSome? Content.dialect?).getD .postgres := by
    refine get_changed (fun settings => Settings.dialect settings) Content.dialect? ?_ ?_ once {}
    · intro content settings
      cases content <;> rfl
    · intro first second firstSays secondSays
      cases first with
      | tables => cases firstSays
      | dialect =>
          cases second with
          | tables => cases secondSays
          | dialect => rfl
  have tables : (changed Content.change {} entries).tables =
      ((contents entries).findSome? Content.tables?).getD {} := by
    refine get_changed (fun settings => Settings.tables settings) Content.tables? ?_ ?_ once {}
    · intro content settings
      cases content <;> rfl
    · intro first second firstSays secondSays
      cases first with
      | dialect => cases firstSays
      | tables =>
          cases second with
          | dialect => cases secondSays
          | tables => rfl
  cases settings : changed Content.change {} entries with
  | mk given names =>
      rw [settings] at dialect tables
      exact Settings.mk.injEq .. ▸ ⟨dialect, tables⟩

/-- A key of the settings is there twice, at either level. -/
def SettingsRepeat : List (Entry Content) → String → Prop :=
  form.Repeats Content.Repeats

/-- A settings text gives what is written in it, or a key is there twice. -/
theorem read_outcome {text : String} {entries : List (Entry Content)}
    (settingsText : SettingsText text.toList entries) :
    ((∀ key, ¬ SettingsRepeat entries key) ∧ read text = .ok (settingsOf entries)) ∨
      ∃ key, SettingsRepeat entries key ∧ read text = .error (.value (.duplicateField key)) := by
  rw [read]
  generalize text.toList = characters at settingsText
  cases settingsText with
  | @mk before text after entries blankBefore object blankAfter =>
      rw [run_object settings_written object {} blankBefore after]
      rcases foldlM_step_nil settings_change entries {} with
        ⟨once, all, done⟩ | ⟨key, repeated, failure⟩
      · rw [settings_changed (not_repeats_iff.mp once).1] at done
        refine .inl ⟨once, ?_⟩
        rw [done]
        simp only [Except.map, closing_eq_ok_iff.mpr blankAfter]
      · refine .inr ⟨key, repeated, ?_⟩
        rw [failure]
        rfl

/-! ## Settings that are written -/

/-- The members of the text of the names of tables. -/
def tablesEntries (names : Sql.TableNames) : List TablesEntry :=
  [.field (.sessions, names.sessions), .field (.testcases, names.testcases),
    .field (.labels, names.labels)]

/-- The members of the text of settings. -/
def entriesOf (settings : Settings) : List (Entry Content) :=
  [.field (.dialect settings.dialect), .field (.tables (tablesEntries settings.tables))]

theorem not_repeat_entriesOf (settings : Settings) :
    ∀ key, ¬ SettingsRepeat (entriesOf settings) key := by
  have above : ["dialect", "tables"].Nodup := by decide
  have below : ["sessions", "testcases", "labels"].Nodup := by decide
  have tables : ∀ key, ¬ TablesRepeat (tablesEntries settings.tables) key :=
    not_repeats_iff.mpr ⟨below, fun _ _ _ => id⟩
  have inside : ∀ content ∈ contents (entriesOf settings), ∀ key, ¬ content.Repeats key :=
    List.forall_mem_cons.mpr ⟨fun _ => id, List.forall_mem_singleton.mpr tables⟩
  exact not_repeats_iff.mpr ⟨above, inside⟩

theorem fields_of_tables (colon : String) (names : Sql.TableNames) :
    List.Forall₂ (tablesForm.Field colon)
      [writtenString "sessions" ++ colon ++ writtenString names.sessions,
        writtenString "testcases" ++ colon ++ writtenString names.testcases,
        writtenString "labels" ++ colon ++ writtenString names.labels]
      (tablesEntries names) := by
  have field (table : Sql.Table) (name : String) :
      tablesForm.Field colon (writtenString (tableKey table) ++ colon ++ writtenString name)
        (.field (table, name)) :=
    @Form.field_written _ tablesForm (table, name) _ (quotedText_writtenString name) colon
  exact .cons (field .sessions _) (.cons (field .testcases _) (.cons (field .labels _) .nil))

theorem fields_of_settings {tablesText : String} {settings : Settings}
    (object : tablesForm.Object tablesText.toList (tablesEntries settings.tables))
    (colon : String) :
    List.Forall₂ (form.Field colon)
      [writtenString "dialect" ++ colon ++ writtenString settings.dialect.name,
        writtenString "tables" ++ colon ++ tablesText]
      (entriesOf settings) := by
  have dialect := @Form.field_written _ form (.dialect settings.dialect) _
    (quotedText_writtenString settings.dialect.name) colon
  have tables := @Form.field_written _ form (.tables (tablesEntries settings.tables)) _ object colon
  exact .cons dialect (.cons tables .nil)

theorem settingsText_of_object {text : List Char} {entries : List (Entry Content)}
    (object : form.Object text entries) : SettingsText text entries := by
  have settingsText := SettingsText.mk gap_nil object gap_nil
  rwa [List.append_nil] at settingsText

theorem gap_lineBreak (depth : Nat) : Gap (lineBreak depth).toList := by
  intro c member
  rw [lineBreak, String.toList_ofList] at member
  rcases List.mem_cons.mp member with rfl | member
  · rfl
  · rw [List.eq_of_mem_replicate member]
    rfl

/-- On one line. -/
theorem settingsText_compact (settings : Settings) :
    SettingsText settings.toJson.compact.toList (entriesOf settings) := by
  have blanks : Gap [] ∧ Gap [] ∧ Gap [] ∧ Gap [] := ⟨gap_nil, gap_nil, gap_nil, gap_nil⟩
  have tables : tablesForm.Object (tablesJson settings.tables).compact.toList
      (tablesEntries settings.tables) := by
    have object := @object_of_fields _ _ "," ":" [] [] [] [] rfl rfl blanks _ _
      (fields_of_tables ":" settings.tables) (List.cons_ne_nil _ _)
    simpa [tablesJson, compact, compactFields] using object
  have object := @object_of_fields _ _ "," ":" [] [] [] [] rfl rfl blanks _ _
    (fields_of_settings tables ":") (List.cons_ne_nil _ _)
  apply settingsText_of_object
  simpa [toJson, compact, compactFields] using object

/-- Over several lines. -/
theorem settingsText_pretty (settings : Settings) :
    SettingsText settings.toJson.pretty.toList (entriesOf settings) := by
  have space : Gap [' '] := List.forall_mem_singleton.mpr rfl
  have blanks (depth : Nat) : Gap (lineBreak (depth + 1)).toList ∧ Gap [' '] ∧
      Gap (lineBreak (depth + 1)).toList ∧ Gap (lineBreak depth).toList :=
    ⟨gap_lineBreak _, space, gap_lineBreak _, gap_lineBreak _⟩
  have separator (depth : Nat) :
      ("," ++ lineBreak depth).toList = ',' :: (lineBreak depth).toList := String.toList_append
  have tables : tablesForm.Object (prettyAt 1 (tablesJson settings.tables)).toList
      (tablesEntries settings.tables) := by
    have object := @object_of_fields _ _ _ ": " _ [' '] _ _ (separator 2) rfl (blanks 1) _ _
      (fields_of_tables ": " settings.tables) (List.cons_ne_nil _ _)
    simpa [tablesJson, prettyAt, prettyFields, compact] using object
  have object := @object_of_fields _ _ _ ": " _ [' '] _ _ (separator 1) rfl (blanks 0) _ _
    (fields_of_settings tables ": ") (List.cons_ne_nil _ _)
  apply settingsText_of_object
  simpa [toJson, pretty, prettyAt, prettyFields, compact] using object

/-! ## Every settings text -/

/-- A settings text overrides exactly what is present in it.  If no known key is there twice, it
is read as what it gives and as the defaults of what it does not; otherwise a key that is there
twice is reported.  What is written of settings is read as those settings. -/
theorem text_overrides_what_is_present :
    (∀ text entries, SettingsText text.toList entries → (∀ key, ¬ SettingsRepeat entries key) →
      read text = .ok (settingsOf entries)) ∧
    (∀ text entries, SettingsText text.toList entries → (∃ key, SettingsRepeat entries key) →
      ∃ key, SettingsRepeat entries key ∧ read text = .error (.value (.duplicateField key))) ∧
    (∀ settings : Settings, read settings.toJson.compact = .ok settings ∧
      read settings.toJson.pretty = .ok settings) := by
  have accepted {text : String} {entries : List (Entry Content)}
      (settingsText : SettingsText text.toList entries)
      (once : ∀ key, ¬ SettingsRepeat entries key) : read text = .ok (settingsOf entries) := by
    rcases read_outcome settingsText with ⟨-, success⟩ | ⟨key, repeated, -⟩
    · exact success
    · exact absurd repeated (once key)
  refine ⟨fun text entries => accepted, ?_, ?_⟩
  · rintro text entries settingsText ⟨key, repeated⟩
    rcases read_outcome settingsText with ⟨once, -⟩ | refused
    · exact absurd repeated (once key)
    · exact refused
  · intro settings
    have once := not_repeat_entriesOf settings
    exact ⟨accepted (settingsText_compact settings) once,
      accepted (settingsText_pretty settings) once⟩

/-- A text with an unknown key, a known one that is escaped and a name in surrogates. -/
def scatteredText : String :=
  " \x7b\"x\":[\"\\ud800\"],\"t\\u0061bles\" : \x7b\"labels\":\"\\ud83d\\ude00\"\x7d,\n" ++
    "\"dialect\":\"mysql\"\x7d"

theorem text_overrides_what_is_present_scattered :
    read scatteredText = .ok { dialect := .mysql, tables := { labels := "😀" } } ∧
    read "\x7b\"dialect\":\"mysql\",\"dialect\":\"mysql\"\x7d" =
      .error (.value (.duplicateField "dialect")) := by
  have plain (content quoted : String) (same : writtenString content = quoted) :
      QuotedText quoted.toList content := same ▸ quotedText_writtenString content
  have space : Gap [' '] := List.forall_mem_singleton.mpr rfl
  have lineEnd : Gap ['\n'] := List.forall_mem_singleton.mpr rfl
  have lone : Spelled .value "\"\\ud800\"".toList :=
    .string (@StringBody.escaped LooseEscape "ud800".toList ['"'] [] _
      (.unit (.mk rfl rfl rfl rfl)) .close)
  have array : Spelled .value "[\"\\ud800\"]".toList :=
    @Spelled.nested false [] _ gap_nil (.last (.element lone gap_nil))
  have unknown : form.Member "\"x\":[\"\\ud800\"]".toList (.other "x") :=
    .mk (plain "x" "\"x\"" (by decide)) gap_nil gap_nil (.other (by decide) array) gap_nil
  have face : QuotedText "\"\\ud83d\\ude00\"".toList "😀" :=
    .mk (@StringBody.escaped Escape "ud83d\\ude00".toList ['"'] [] '😀'
      (@Escape.pair "d83d".toList "de00".toList '😀' (by decide)
        (@FourDigits.mk 'd' '8' '3' 'd' 13 8 3 13 rfl rfl rfl rfl)
        (@FourDigits.mk 'd' 'e' '0' '0' 13 14 0 0 rfl rfl rfl rfl)) .close)
  have labels : tablesForm.Object "\x7b\"labels\":\"\\ud83d\\ude00\"\x7d".toList
      [.field (.labels, "😀")] :=
    .members gap_nil (.last (.mk (plain "labels" "\"labels\"" (by decide)) gap_nil gap_nil
      (@Form.Says.field _ tablesForm _ (.labels, "😀") face) gap_nil))
  have key : QuotedText "\"t\\u0061bles\"".toList "tables" := by
    have behind : StringBody Escape "bles\"".toList "bles".toList :=
      stringBody_escapedChar 'b' (stringBody_escapedChar 'l' (stringBody_escapedChar 'e'
        (stringBody_escapedChar 's' .close)))
    have escaped : StringBody Escape "\\u0061bles\"".toList "ables".toList :=
      @StringBody.escaped Escape "u0061".toList _ _ 'a'
        (.unit (@FourDigits.mk '0' '0' '6' '1' 0 0 6 1 rfl rfl rfl rfl)) behind
    exact .mk (stringBody_escapedChar 't' escaped)
  have tables : form.Member "\"t\\u0061bles\" : \x7b\"labels\":\"\\ud83d\\ude00\"\x7d".toList
      (.field (.tables [.field (.labels, "😀")])) :=
    .mk key space space (@Form.Says.field _ form _ (.tables _) labels) gap_nil
  have dialect : form.Member "\"dialect\":\"mysql\"".toList (.field (.dialect .mysql)) :=
    .mk (plain "dialect" "\"dialect\"" (by decide)) gap_nil gap_nil
      (@Form.Says.field _ form _ (.dialect .mysql) (plain "mysql" "\"mysql\"" (by decide))) gap_nil
  have accepted : SettingsText scatteredText.toList
      [.other "x", .field (.tables [.field (.labels, "😀")]), .field (.dialect .mysql)] :=
    .mk space (.members gap_nil (.more unknown gap_nil (.more tables lineEnd (.last dialect))))
      gap_nil
  have refused : SettingsText "\x7b\"dialect\":\"mysql\",\"dialect\":\"mysql\"\x7d".toList
      [.field (.dialect .mysql), .field (.dialect .mysql)] :=
    settingsText_of_object (.members gap_nil (.more dialect gap_nil (.last dialect)))
  rcases text_overrides_what_is_present with ⟨accepts, refuses, -⟩
  have names : ∀ key, ¬ TablesRepeat [.field (.labels, "😀")] key :=
    not_repeats_iff.mpr ⟨List.nodup_singleton "labels", fun _ _ _ => id⟩
  have above : ["tables", "dialect"].Nodup := by decide
  have twice : List.Duplicate "dialect" ["dialect", "dialect"] := by decide
  refine ⟨accepts _ _ accepted (not_repeats_iff.mpr ⟨above, List.forall_mem_cons.mpr
    ⟨names, List.forall_mem_singleton.mpr fun _ => id⟩⟩), ?_⟩
  rcases refuses _ _ refused ⟨"dialect", .inl twice⟩ with ⟨key, repeated, failure⟩
  rcases repeated with twice | ⟨content, member, repeated⟩
  · have isKey : key ∈ ["dialect", "dialect"] := twice.mem
    simp only [List.mem_cons, List.not_mem_nil, or_false, or_self] at isKey
    rw [failure, isKey]
  · have none : ∀ content ∈ [Content.dialect .mysql, .dialect .mysql], ¬ content.Repeats key :=
      List.forall_mem_cons.mpr ⟨id, List.forall_mem_singleton.mpr id⟩
    exact absurd repeated (none content member)

end Settings
end TestQuery
