import TestQuery.Proofs.Query.Layout
import TestQuery.Proofs.Query.Writing
import TestQuery.Proofs.Service.Rows
import TestQuery.Proofs.Service.Window

namespace TestQuery

/-!
# Opening a group

An enumeration shows each group by the values of its keys, and the keys as they are written in
a query.  Put together, the two are the text of a query that lists the group: it is read as the
same keys with the same values, it suits every purpose, and its plan is pinned to the group.
Only a value with a quote in it cannot be written so.
-/

namespace Query

/-! ## The text -/

/-- The text that lists one group, by the headers of its keys and its values. -/
def drillDown (headers values : List String) : String :=
  "group_by(" ++ Json.joined ", " headers ++ ") group = (" ++
    Json.joined ", " (values.map fun value => "\"" ++ value ++ "\"") ++ ")"

/-- A token may stand behind one that does not swallow it, with blanks before it or none. -/
theorem LaidOut.behind {before : Option TokenKind} {kind : TokenKind} {kinds : List TokenKind}
    {gap spelled text : List Char} (apart : ∀ previous ∈ before, previous.needsGap kind = false)
    (blank : Blank gap) (spelling : TokenSpelling kind spelled)
    (rest : LaidOut (some kind) kinds text) :
    LaidOut before (kind :: kinds) (gap ++ (spelled ++ text)) := by
  refine .token blank ?_ spelling rest
  intro previous isPrevious together
  rw [apart previous isPrevious] at together
  cases together

theorem blank_nil : Blank [] :=
  List.forall_mem_nil _

theorem blank_space : Blank [' '] :=
  List.forall_mem_singleton.mpr rfl

/-- The text is an item of a list: it lays out its tokens behind an opening parenthesis or a
comma, before whatever can stand behind any token. -/
def LaysItem (kinds : List TokenKind) (text : List Char) : Prop :=
  ∀ (before : TokenKind) (gap : List Char) (others : List TokenKind) (rest : List Char),
    (∀ kind, before.needsGap kind = false) → Blank gap →
      (∀ last, LaidOut (some last) others rest) →
        LaidOut (some before) (kinds ++ others) (gap ++ (text ++ rest))

theorem laysItem_header {key : GroupKey} (expressible : KeyExpressible key) :
    LaysItem (keyKinds key) key.header.toList := by
  intro before gap others rest apart blank after
  have behind (kind : TokenKind) : ∀ previous ∈ some before, previous.needsGap kind = false := by
    rintro previous ⟨⟩
    exact apart kind
  cases key with
  | session => exact .behind (behind _) blank (.keyword .sessionId rfl) (after _)
  | tag name =>
      have text : (GroupKey.tag name).header.toList = '#' :: '"' :: (name.toList ++ ['"']) := by
        simp [GroupKey.header]
      have content : LaidOut (some .hash) (.string name :: others)
          ([] ++ ('"' :: (name.toList ++ ['"']) ++ rest)) := by
        refine .behind ?_ blank_nil (.string expressible.2) (after _)
        rintro previous ⟨⟩
        rfl
      rw [text]
      change LaidOut _ _ (gap ++ (['#'] ++ ([] ++ ('"' :: (name.toList ++ ['"']) ++ rest))))
      exact .behind (behind _) blank .hash content

theorem laysItem_value {value : String} (unquoted : Unquoted value) :
    LaysItem [.string value] ("\"" ++ value ++ "\"").toList := by
  intro before gap others rest apart blank after
  have text : ("\"" ++ value ++ "\"").toList = '"' :: (value.toList ++ ['"']) := by
    simp
  rw [text]
  refine .behind ?_ blank (.string unquoted) (after _)
  rintro previous ⟨⟩
  exact apart _

/-- Items with commas and blanks between them. -/
theorem laysItem_list {α : Type} {itemKinds : α → List TokenKind} {itemText : α → String}
    {items : List α} (nonempty : items ≠ [])
    (each : ∀ item ∈ items, LaysItem (itemKinds item) (itemText item).toList) :
    LaysItem (listKinds itemKinds items) (Json.joined ", " (items.map itemText)).toList := by
  fun_induction listKinds itemKinds items with
  | case1 => exact absurd rfl nonempty
  | case2 last => exact each last List.mem_cons_self
  | case3 first others notAlone inductionHypothesis =>
      have several : others ≠ [] := fun none => notAlone (by rw [none])
      have text : (Json.joined ", " ((first :: others).map itemText)).toList =
          (itemText first).toList ++ ([','] ++ ([' '] ++
            (Json.joined ", " (others.map itemText)).toList)) := by
        cases others with
        | nil => exact absurd rfl several
        | cons second others => simp [Json.joined]
      have tail := inductionHypothesis several fun item member =>
        each item (List.mem_cons_of_mem _ member)
      intro before gap following rest apart blank after
      rw [text, List.append_assoc, List.append_assoc, List.append_assoc, List.append_assoc]
      refine each first List.mem_cons_self before gap _ _ apart blank fun last => ?_
      have parted : ∀ previous ∈ some last, previous.needsGap .comma = false := by
        rintro previous ⟨⟩
        cases last <;> rfl
      change LaidOut (some last) (.comma :: (listKinds itemKinds others ++ following))
        ([] ++ ([','] ++ ([' '] ++ ((Json.joined ", " (others.map itemText)).toList ++ rest))))
      refine .behind parted blank_nil .comma ?_
      exact tail .comma [' '] following rest (fun kind => rfl) blank_space after

/-! ## Reading it -/

/-- The query that pins the keys to the values. -/
def pinnedTo (keys : List GroupKey) (values : List String) : Query where
  groupBy := some keys
  selector := some values

/-- The values can be selected by the keys: there is one for each, none has a quote in it, and
those that are to name a session do. -/
structure Selectable (keys : List GroupKey) (values : List String) : Prop where
  valueForKey : values.length = keys.length
  unquoted : ∀ value ∈ values, Unquoted value
  named : ∀ value, (GroupKey.session, value) ∈ keys.zip values →
    (Uuid.ofText? value.toList).isSome = true

theorem laidOut_drillDown {keys : List GroupKey} {values : List String} (keyed : keys ≠ [])
    (selected : values ≠ []) (expressible : ∀ key ∈ keys, KeyExpressible key)
    (unquoted : ∀ value ∈ values, Unquoted value) :
    LaidOut none (clauseKinds (.groupBy keys) ++ clauseKinds (.group values))
      (drillDown (keys.map GroupKey.header) values).toList := by
  have headers := laysItem_list keyed fun key member => laysItem_header (expressible key member)
  have quoted := laysItem_list selected fun value member => laysItem_value (unquoted value member)
  have closes {kinds : List TokenKind} {text : List Char}
      (rest : LaidOut (some .rightParen) kinds text) (last : TokenKind) :
      LaidOut (some last) (.rightParen :: kinds) ([] ++ ([')'] ++ text)) := by
    refine .behind ?_ blank_nil .rightParen rest
    rintro previous ⟨⟩
    cases last <;> rfl
  have apart (previous kind : TokenKind) (parted : previous.needsGap kind = false) :
      ∀ before ∈ some previous, before.needsGap kind = false := by
    rintro before ⟨⟩
    exact parted
  have atStart (kind : TokenKind) :
      ∀ before ∈ (none : Option TokenKind), before.needsGap kind = false := by
    rintro before ⟨⟩
  have groupBy : TokenSpelling (.keyword .groupBy) "group_by".toList := .keyword .groupBy rfl
  have group : TokenSpelling (.keyword .group) "group".toList := .keyword .group rfl
  -- from the back: the values, what stands before them, the keys, what stands before those
  have valuesLaid := quoted .leftParen [] _ _ (fun _ => rfl) blank_nil (closes (.done blank_nil))
  have selectorLaid := LaidOut.behind (apart .rightParen (.keyword .group) rfl) blank_space group
    (.behind (apart _ .equal rfl) blank_space .equal
      (.behind (apart _ .leftParen rfl) blank_space .leftParen valuesLaid))
  have keysLaid := headers .leftParen [] _ _ (fun _ => rfl) blank_nil (closes selectorLaid)
  have whole := LaidOut.behind (atStart (.keyword .groupBy)) blank_nil groupBy
    (.behind (apart _ .leftParen rfl) blank_nil .leftParen keysLaid)
  convert whole using 1
  · simp [clauseKinds]
  · simp [drillDown]

theorem clausesOf_pinnedTo (keys : List GroupKey) (values : List String) :
    clausesOf (pinnedTo keys values) = [.groupBy keys, .group values] := by
  simp [clausesOf, places, pinnedTo, unusual?]

section

variable {keys : List GroupKey} {values : List String}

theorem Selectable.ne_nil (selectable : Selectable keys values) (keyed : keys ≠ []) :
    values ≠ [] := by
  rintro rfl
  exact keyed (List.eq_nil_of_length_eq_zero selectable.valueForKey.symm)

theorem wellFormed_pinnedTo (keyed : keys ≠ []) (expressible : ∀ key ∈ keys, KeyExpressible key)
    (selectable : Selectable keys values) : WellFormed (pinnedTo keys values) where
  chain := .inl rfl
  groupBy := by
    rintro _ ⟨⟩
    exact ⟨keyed, expressible⟩
  selector := by
    rintro _ ⟨⟩
    exact ⟨selectable.ne_nil keyed, rfl, selectable.unquoted⟩
  offset := ⟨Int.le_refl 0, Int.natCast_nonneg maxNumber⟩
  limit := ⟨Int.le_refl 0, Int.natCast_nonneg maxNumber⟩
  startDate := by
    rintro _ ⟨⟩
  endDate := by
    rintro _ ⟨⟩

theorem read_drillDown (keyed : keys ≠ []) (expressible : ∀ key ∈ keys, KeyExpressible key)
    (selectable : Selectable keys values) :
    read (drillDown (keys.map GroupKey.header) values) = .ok (pinnedTo keys values) := by
  have laidOut := laidOut_drillDown keyed (selectable.ne_nil keyed) expressible selectable.unquoted
  rcases shows_of_laidOut laidOut with ⟨tokens, tokenized, kinds⟩
  apply read_of_tokens (wellFormed_pinnedTo keyed expressible selectable) tokenized
  rw [kinds, clausesOf_pinnedTo]
  simp

theorem check_pinnedTo (selectable : Selectable keys values) (purpose : Purpose) :
    (pinnedTo keys values).check purpose = .ok () := by
  have fits : selectorFits keys (some values) = .ok () := if_pos selectable.valueForKey
  cases purpose <;> exact fits

end

end Query

namespace Service

open Query (Purpose Selectable drillDown pinnedTo)

/-! ## Listing what is pinned -/

/-- The plan lists the records of the group that has these values for the keys, from the first
one on. -/
def Opens (settings : Settings) (owner : Uuid) (purpose : Purpose) (keys : List GroupKey)
    (values : List String) (plan : Plan) : Prop :=
  ∃ pins, plan = Plan.assembled settings owner (pinnedTo keys values) purpose ⟨0, 100⟩ pins ∧
    Plan.Pinned purpose 0 keys values pins

section

variable {keys : List GroupKey} {values : List String}

theorem planned_pinnedTo (settings : Settings) (owner : Uuid) (purpose : Purpose)
    (keyed : keys ≠ []) (expressible : ∀ key ∈ keys, Query.KeyExpressible key)
    (selectable : Selectable keys values) :
    ∃ plan, Plan.ofQuery settings owner (pinnedTo keys values) purpose = .ok plan ∧
      Opens settings owner purpose keys values plan := by
  have regular := regular_of_wellFormed (Query.wellFormed_pinnedTo keyed expressible selectable)
  have outcome := regular.ofQuery_eq (Query.check_pinnedTo selectable purpose) settings owner
  have nothingMisnamed : Plan.misnamedOf? (pinnedTo keys values) = none := by
    apply Plan.misnamedOf?_eq_none_iff.mpr
    rintro _ ⟨⟩ _ ⟨⟩
    exact selectable.named
  have accepted : Plan.refusal? (pinnedTo keys values) = none := by
    rw [Plan.refusal?, nothingMisnamed]
    rfl
  rw [accepted] at outcome
  rcases outcome with ⟨plan, planned⟩
  rcases Plan.assembled_of_ok planned with ⟨page, pins, paged, pinned, -, isPlan⟩
  cases paged
  exact ⟨plan, planned, pins, isPlan, Plan.pinned_of_ok pinned⟩

theorem sent_drillDown (settings : Settings) (owner : Uuid) (purpose : Purpose)
    (keyed : keys ≠ []) (expressible : ∀ key ∈ keys, Query.KeyExpressible key)
    (selectable : Selectable keys values) :
    ∃ plan, Opens settings owner purpose keys values plan ∧
      ∀ executor history, (((Demand.list purpose
        { text := drillDown (keys.map GroupKey.header) values }).call settings owner).run.runFrom
          executor history).1 = [plan] := by
  have accepted : Accepted purpose (drillDown (keys.map GroupKey.header) values)
      (pinnedTo keys values) :=
    .text (Query.read_drillDown keyed expressible selectable)
      (Query.check_pinnedTo selectable purpose)
  rcases planned_pinnedTo settings owner purpose keyed expressible selectable with
    ⟨plan, planned, opens⟩
  refine ⟨plan, opens, fun executor history => ?_⟩
  exact (run_of_planned accepted.asked accepted.prepare planned executor history).1

end

/-- An enumeration that succeeds shows groups with a value for each of the keys in its text. -/
theorem valueForKey_of_listed {settings : Settings} {owner : Uuid} {params : Params}
    {executor : Executor} {history : List Plan} {results : Results Record.Group}
    (listed : ((queryGroups settings owner params).run.runFrom executor history).2 = .ok results) :
    ∃ query keys, Query.read params.text = .ok query ∧ query.groupBy = some keys ∧
      ∀ group ∈ results.results, group.values.length = keys.length := by
  have given : params.text ≠ "" := by
    intro noText
    rw [queryGroups, if_pos noText] at listed
    cases listed
  rw [queryGroups_eq_listCall given] at listed
  rcases @listCall_cases _ settings owner params .groups fun plan => decodeGroups plan.groupColumns
    with ⟨error, failure⟩ | ⟨query, plan, prepared, planned⟩
  · rw [failure] at listed
    cases listed
  · rcases keys_of_prepare given prepared with ⟨own, keys, read, grouped, isKeys⟩
    refine ⟨own, keys, read, grouped, fun group member => ?_⟩
    rw [run_listCall _ prepared planned] at listed
    cases answer : executor history plan with
    | error reason =>
        rw [answer] at listed
        cases listed
    | ok rows =>
        rw [answer, columns_of_planned planned, isKeys] at listed
        have shown := (reported_decodeGroups keys rows).records results listed
        have counted := shown.flip.imp (S := fun group row =>
          group.values.length = keys.length ∧ Record.GroupRow keys row group)
          fun group row isGroup => ⟨isGroup.valueForKey, isGroup⟩
        exact ((List.forall₂_and_left _ _).mp counted).1 group member

/-- Every group can be opened whose values can be written.  The text made of its keys and its
values is read as exactly these, it suits every purpose, and what it is planned as is pinned to
the group.  Keys that were read can always be written, so it is enough that the values of a
group that is listed are there and have no quotes, and that those for sessions name some. -/
theorem group_can_be_opened (settings : Settings) (owner : Uuid) :
    (∀ keys values, keys ≠ [] → (∀ key ∈ keys, Query.KeyExpressible key) →
      Selectable keys values →
      Query.read (drillDown (keys.map GroupKey.header) values) = .ok (pinnedTo keys values) ∧
      ∀ purpose, (pinnedTo keys values).check purpose = .ok () ∧
        ∃ plan, Plan.ofQuery settings owner (pinnedTo keys values) purpose = .ok plan ∧
          Opens settings owner purpose keys values plan) ∧
    (∀ text query keys, Query.read text = .ok query → query.groupBy = some keys →
      keys ≠ [] ∧ ∀ key ∈ keys, Query.KeyExpressible key) ∧
    (∀ params executor history results,
      ((queryGroups settings owner params).run.runFrom executor history).2 = .ok results →
      ∃ query keys, Query.read params.text = .ok query ∧ query.groupBy = some keys ∧
        ∀ group ∈ results.results, ∀ values, group.values = values.map some →
          (∀ value ∈ values, Query.Unquoted value) →
          (∀ value, (GroupKey.session, value) ∈ keys.zip values →
            (Uuid.ofText? value.toList).isSome = true) →
          ∀ purpose, ∃ plan, Opens settings owner purpose keys values plan ∧
            ∀ executor history, (((Demand.list purpose
              { text := drillDown (keys.map GroupKey.header) values }).call settings
                owner).run.runFrom executor history).1 = [plan]) := by
  have writable (text : String) (query : Query) (keys : List GroupKey)
      (read : Query.read text = .ok query) (grouped : query.groupBy = some keys) :
      keys ≠ [] ∧ ∀ key ∈ keys, Query.KeyExpressible key :=
    (Query.wellFormed_of_read read).groupBy keys grouped
  refine ⟨?_, writable, ?_⟩
  · intro keys values keyed expressible selectable
    refine ⟨Query.read_drillDown keyed expressible selectable, fun purpose => ?_⟩
    exact ⟨Query.check_pinnedTo selectable purpose,
      planned_pinnedTo settings owner purpose keyed expressible selectable⟩
  · intro params executor history results listed
    rcases valueForKey_of_listed listed with ⟨query, keys, read, grouped, valueForKey⟩
    refine ⟨query, keys, read, grouped, ?_⟩
    intro group member values isValues unquoted named purpose
    rcases writable params.text query keys read grouped with ⟨keyed, expressible⟩
    have lengths : values.length = keys.length := by
      rw [← valueForKey group member, isValues, List.length_map]
    exact sent_drillDown settings owner purpose keyed expressible ⟨lengths, unquoted, named⟩

/-- A group whose values look like parts of a query. -/
def disguisedRow : Json.Cells :=
  [("aggregated_status", .int 1), ("group_0", .string "a, b) limit=1"),
    ("group_1", .string "67E5504410B1426F9247BB680E5FE0C8"), ("testcase_count", .int 7),
    ("total_count", .int 1)]

/-- Tags and values that look like the rest of a query are read as they are, and a group that
is listed with such values is opened. -/
theorem group_can_be_opened_disguised :
    Query.read ("group_by(#\"), group = (\", session_id) " ++
        "group = (\"a, b) limit=1\", \"67E5504410B1426F9247BB680E5FE0C8\")") =
      .ok (pinnedTo [.tag "), group = (", .session]
        ["a, b) limit=1", "67E5504410B1426F9247BB680E5FE0C8"]) ∧
    ∃ plan, Opens {} .nil .sessions [.tag "), group = (", .session]
        ["a, b) limit=1", "67E5504410B1426F9247BB680E5FE0C8"] plan ∧
      ((querySessions {} .nil { text := "group_by(#\"), group = (\", session_id) " ++
        "group = (\"a, b) limit=1\", \"67E5504410B1426F9247BB680E5FE0C8\")" }).run.runFrom
          (fun _ _ => .ok []) []).1 = [plan] := by
  have keyed : [GroupKey.tag "), group = (", .session] ≠ [] := List.cons_ne_nil _ _
  have expressible : ∀ key ∈ [GroupKey.tag "), group = (", .session],
      Query.KeyExpressible key := by
    simp [Query.KeyExpressible, Query.TagName, Query.Unquoted]
  have unquoted : ∀ value ∈ ["a, b) limit=1", "67E5504410B1426F9247BB680E5FE0C8"],
      Query.Unquoted value := by
    simp [Query.Unquoted]
  have named : ∀ value, (GroupKey.session, value) ∈ [GroupKey.tag "), group = (", .session].zip
      ["a, b) limit=1", "67E5504410B1426F9247BB680E5FE0C8"] →
        (Uuid.ofText? value.toList).isSome = true := by
    intro value member
    simp only [List.zip_cons_cons, List.zip_nil_left, List.mem_cons, Prod.mk.injEq, reduceCtorEq,
      false_and, true_and, List.not_mem_nil, or_false, false_or] at member
    subst member
    decide +kernel
  rcases group_can_be_opened {} .nil with ⟨written, -, listed⟩
  refine ⟨(written _ _ keyed expressible ⟨rfl, unquoted, named⟩).1, ?_⟩
  have read : Query.read "group_by(#\"), group = (\", session_id)" =
      .ok { groupBy := some [.tag "), group = (", .session] } := by
    decide +kernel
  have accepted : Accepted .groups "group_by(#\"), group = (\", session_id)"
      { groupBy := some [.tag "), group = (", .session] } := .text read rfl
  have prepared :=
    @Accepted.prepare .groups ⟨"group_by(#\"), group = (\", session_id)", 0, 0⟩ _ accepted
  have planned : Plan.ofQuery {} .nil { groupBy := some [.tag "), group = (", .session] } .groups =
      .ok _ := rfl
  have shown := congrArg Prod.snd (run_listCall (fun plan => decodeGroups plan.groupColumns)
    prepared planned (fun _ _ => .ok [disguisedRow]) [])
  rw [← queryGroups_eq_listCall (by decide)] at shown
  let group : Record.Group :=
    ⟨[some "a, b) limit=1", some "67E5504410B1426F9247BB680E5FE0C8"], .fail, 7⟩
  rcases listed _ _ _ ⟨[group], 1⟩ shown with ⟨query, keys, isQuery, grouped, opened⟩
  cases isQuery.symm.trans read
  cases grouped
  rcases opened _ List.mem_cons_self _ rfl unquoted named .sessions with ⟨plan, opens, sent⟩
  exact ⟨plan, opens, sent _ []⟩

end Service

end TestQuery
