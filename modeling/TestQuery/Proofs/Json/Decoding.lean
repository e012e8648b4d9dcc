import TestQuery.Json.Decoder
import TestQuery.Proofs.Json.Meaning
import TestQuery.Proofs.Outcome

namespace TestQuery
namespace Json

/-!
# What cells show

A column of a record shows a value: a text, the text of an id, the number of a status.  A
column that may be absent shows nothing where it is absent or null.  The relations here say
so of the cells alone; a decoder gives the value that its cell shows, and fails where the cell
shows none.

A row has each column once.  Lists of cells need not: where a column has further cells, the
first of them is decoded, and the others only have to be of its shape.
-/

/-! ## Shapes -/

def IsText (cell : Json) (text : String) : Prop :=
  cell = .string text

/-- The cell is a text that names an id. -/
def IsId (cell : Json) (id : Uuid) : Prop :=
  ∃ text, cell = .string text ∧ Uuid.ofText? text.toList = some id

def IsInteger (cell : Json) (value : Int) : Prop :=
  cell = .int value ∧ minInt64 ≤ value ∧ value ≤ maxInt64

/-- The cell is the number that a status is stored as. -/
def IsRank (cell : Json) (status : Status) : Prop :=
  cell = .int status.rank

def OrNull {α : Type} (shape : Json → α → Prop) (cell : Json) : Option α → Prop
  | none => cell = .null
  | some value => cell ≠ .null ∧ shape cell value

/-- The cell is baggage.  Null is none; a text is the value that it spells, if it spells one; and
any other value is itself. -/
inductive IsBaggage : Json → Option Json → Prop where
  | null : IsBaggage .null none
  | spelled {text : String} {value : Json} (spells : JsonText depthLimit text.toList value) :
      IsBaggage (.string text) (some value)
  | dropped {text : String} (spellsNone : ∀ value, ¬ JsonText depthLimit text.toList value) :
      IsBaggage (.string text) none
  | value {cell : Json} (notNull : cell ≠ .null) (noString : ∀ text, cell ≠ .string text) :
      IsBaggage cell (some cell)

/-- The cell is an object of texts. -/
def IsTextMap (cell : Json) (texts : List (String × String)) : Prop :=
  cell = .object (texts.map fun field => (field.1, .string field.2))

/-- The decoder gives what the shape says. -/
def Decodes {α : Type} (decoder : Decoder α) (shape : Json → α → Prop) : Prop :=
  ∀ cell value, decoder cell = .ok value ↔ shape cell value

theorem decodes_text : Decodes Decoder.text IsText := by
  intro cell text
  cases cell with
  | string content => simp [Decoder.text, IsText]
  | _ => simp [Decoder.text, IsText]

theorem decodes_uuid : Decodes Decoder.uuid IsId := by
  intro cell id
  cases cell with
  | string content =>
      cases named : Uuid.ofText? content.toList with
      | none => simp [Decoder.uuid, Uuid.read, IsId, named]
      | some found => simp [Decoder.uuid, Uuid.read, IsId, named]
  | _ => simp [Decoder.uuid, IsId]

theorem int64?_eq_some_iff {cell : Json} {value : Int} :
    int64? cell = some value ↔ IsInteger cell value := by
  cases cell with
  | int found =>
      simp only [int64?, IsInteger, Json.int.injEq]
      constructor
      · intro given
        split at given
        · rename_i bounds
          cases given
          exact ⟨rfl, bounds⟩
        · cases given
      · rintro ⟨rfl, bounds⟩
        exact if_pos bounds
  | _ => simp [int64?, IsInteger]

theorem decodes_integer : Decodes Decoder.integer IsInteger := by
  intro cell value
  rw [← int64?_eq_some_iff]
  cases cell with
  | int found =>
      simp only [Decoder.integer, int64?]
      split <;> simp
  | _ => simp [Decoder.integer, int64?]

theorem ofRank?_eq_some_iff {rank : Int} {status : Status} :
    Status.ofRank? rank = some status ↔ rank = status.rank := by
  constructor
  · intro found
    exact beq_iff_eq.mp (List.find?_some found :)
  · rintro rfl
    cases status <;> decide

theorem statusOfRank_eq_ok_iff {rank : Int} {status : Status} :
    Decoder.statusOfRank rank = .ok status ↔ rank = status.rank := by
  rw [← ofRank?_eq_some_iff, Decoder.statusOfRank]
  cases Status.ofRank? rank <;> simp

/-- The number of a status fits a word of 64 bits. -/
theorem isInteger_rank (status : Status) : IsInteger (.int status.rank) status.rank := by
  cases status <;> exact ⟨rfl, by decide, by decide⟩

theorem isRank_iff {cell : Json} {status : Status} :
    IsRank cell status ↔ ∃ rank, IsInteger cell rank ∧ Decoder.statusOfRank rank = .ok status := by
  constructor
  · rintro rfl
    exact ⟨status.rank, isInteger_rank status, statusOfRank_eq_ok_iff.mpr rfl⟩
  · rintro ⟨rank, ⟨isInt, -⟩, named⟩
    rw [statusOfRank_eq_ok_iff.mp named] at isInt
    exact isInt

theorem decodes_status : Decodes Decoder.status IsRank := by
  intro cell status
  rw [isRank_iff, Decoder.status]
  cases decoded : Decoder.integer cell with
  | error fault => simp [← decodes_integer cell, decoded, bind, Except.bind]
  | ok rank => simp [← decodes_integer cell, decoded, bind, Except.bind]

theorem Decodes.optional {α : Type} {decoder : Decoder α} {shape : Json → α → Prop}
    (decodes : Decodes decoder shape) : Decodes (Decoder.optional decoder) (OrNull shape) := by
  intro cell value
  have present (other : cell ≠ .null) :
      Decoder.optional decoder cell = (decoder cell).map some := by
    cases cell with
    | null => exact absurd rfl other
    | _ => rfl
  by_cases isNull : cell = .null
  · subst isNull
    cases value <;> simp [Decoder.optional, OrNull]
  · rw [present isNull]
    cases value with
    | none =>
        simp only [OrNull, isNull, iff_false]
        intro impossible
        cases decoded : decoder cell <;> rw [decoded] at impossible <;> cases impossible
    | some value =>
        rw [OrNull, ← decodes cell value]
        cases decoder cell <;> simp [Except.map, isNull]

theorem decodes_baggage : Decodes Decoder.baggage IsBaggage := by
  intro cell baggage
  constructor
  · intro decoded
    cases cell with
    | null =>
        cases decoded
        exact .null
    | string text =>
        have read : read? text = baggage := Except.ok.inj decoded
        cases baggage with
        | some value => exact .spelled (read?_eq_some_iff.mp read)
        | none =>
            apply IsBaggage.dropped
            intro value spells
            cases read.symm.trans (read?_eq_some_iff.mpr spells)
    | _ =>
        cases decoded
        exact .value nofun nofun
  · intro isBaggage
    cases isBaggage with
    | null => rfl
    | spelled spells => exact congrArg Except.ok (read?_eq_some_iff.mpr spells)
    | @dropped text spellsNone =>
        cases read : read? text with
        | none => exact congrArg Except.ok read
        | some value => exact absurd (read?_eq_some_iff.mp read) (spellsNone value)
    | value notNull noString =>
        cases cell with
        | null => exact absurd rfl notNull
        | string text => exact absurd rfl (noString text)
        | _ => rfl

theorem decodes_textMap : Decodes Decoder.textMap IsTextMap := by
  intro cell texts
  have field {key : String} {content : Json} {text : String × String} :
      (Decoder.text content).map (key, ·) = .ok text ↔
        (key, content) = (text.1, .string text.2) := by
    rcases text with ⟨otherKey, text⟩
    cases content with
    | string content => simp [Decoder.text, Except.map]
    | _ => simp [Decoder.text, Except.map]
  cases cell with
  | object fields =>
      rw [Decoder.textMap, mapM_eq_ok_iff, IsTextMap, Json.object.injEq]
      simp only [field]
      rw [← List.forall₂_eq_eq_eq, List.forall₂_map_right_iff]
  | _ => simp [Decoder.textMap, IsTextMap]

/-! ## Columns -/

/-- The cell of the column shows the value, and all cells of the column are of the shape. -/
structure Shows {α : Type} (row : Cells) (name : String) (shape : Json → α → Prop) (value : α) :
    Prop where
  shown : ∃ cell, field? row name = some cell ∧ shape cell value
  shaped : ∀ cell, (name, cell) ∈ row → ∃ other, shape cell other

/-- The cell of the column shows the value, or the column is absent and the value is the usual one.
All cells of the column are of the shape. -/
structure ShowsOr {α : Type} (row : Cells) (name : String) (shape : Json → α → Prop)
    (usual value : α) : Prop where
  shown : ∀ cell, field? row name = some cell → shape cell value
  absent : field? row name = none → value = usual
  shaped : ∀ cell, (name, cell) ∈ row → ∃ other, shape cell other

/-- The column is absent, or its cell shows the value or is null. -/
abbrev MayShow {α : Type} (row : Cells) (name : String) (shape : Json → α → Prop)
    (value : Option α) : Prop :=
  ShowsOr row name (OrNull shape) none value

/-- The cells of the column are as the rule demands. -/
structure ColumnRule.Kept (rule : ColumnRule) (cells : Cells) : Prop where
  present : rule.required = true → (field? cells rule.name).isSome = true
  checked : ∀ cell, (rule.name, cell) ∈ cells → rule.check cell = .ok ()

theorem check_eq_ok_iff {α : Type} {decoder : Decoder α} {cell : Json} :
    (decoder cell).map (fun _ => ()) = .ok () ↔ ∃ value, decoder cell = .ok value := by
  cases decoder cell <;> simp [Except.map]

/-- The cells that pass the check of a decoder are those of its shape. -/
theorem checked_iff {α : Type} {decoder : Decoder α} {shape : Json → α → Prop}
    (decodes : Decodes decoder shape) {row : Cells} {name : String} :
    (∀ cell, (name, cell) ∈ row → (decoder cell).map (fun _ => ()) = .ok ()) ↔
      ∀ cell, (name, cell) ∈ row → ∃ value, shape cell value := by
  refine forall₂_congr fun cell _ => ?_
  rw [check_eq_ok_iff]
  exact exists_congr (decodes cell)

theorem shows_iff {α : Type} {decoder : Decoder α} {shape : Json → α → Prop}
    (decodes : Decodes decoder shape) {row : Cells} {name : String} {value : α} :
    (ColumnRule.needed name decoder).Kept row ∧ row.get name decoder = .ok value ↔
      Shows row name shape value := by
  have given : row.get name decoder = .ok value ↔
      ∃ cell, field? row name = some cell ∧ shape cell value := by
    rw [Cells.get]
    cases field? row name <;> simp [decodes _ value]
  constructor
  · intro success
    rcases success with ⟨kept, decoded⟩
    exact ⟨given.mp decoded, (checked_iff decodes).mp kept.checked⟩
  · intro shows
    refine ⟨⟨?_, (checked_iff decodes).mpr shows.shaped⟩, given.mpr shows.shown⟩
    intro _
    rcases shows.shown with ⟨cell, found, -⟩
    exact Option.isSome_iff_exists.mpr ⟨cell, found⟩

theorem showsOr_iff {α : Type} {decoder : Decoder α} {shape : Json → α → Prop}
    (decodes : Decodes decoder shape) {row : Cells} {name : String} {usual value : α} :
    (ColumnRule.spare name decoder).Kept row ∧ row.getD name decoder usual = .ok value ↔
      ShowsOr row name shape usual value := by
  constructor
  · intro success
    rcases success with ⟨kept, decoded⟩
    rw [Cells.getD] at decoded
    refine ⟨?_, ?_, (checked_iff decodes).mp kept.checked⟩
    · intro cell found
      rw [found] at decoded
      exact (decodes cell value).mp decoded
    · intro absent
      rw [absent] at decoded
      exact (Except.ok.inj decoded).symm
  · intro shows
    refine ⟨⟨nofun, (checked_iff decodes).mpr shows.shaped⟩, ?_⟩
    rw [Cells.getD]
    cases found : field? row name with
    | none => exact congrArg Except.ok (shows.absent found).symm
    | some cell => exact (decodes cell value).mpr (shows.shown cell found)

theorem mayShow_iff {α : Type} {decoder : Decoder α} {shape : Json → α → Prop}
    (decodes : Decodes decoder shape) {row : Cells} {name : String} {value : Option α} :
    (ColumnRule.spare name (Decoder.optional decoder)).Kept row ∧
        row.getD name (Decoder.optional decoder) none = .ok value ↔
      MayShow row name shape value :=
  showsOr_iff decodes.optional

/-! ## Rows -/

theorem checkCells_eq_ok_iff {layout : Layout} {cells : Cells} :
    layout.checkCells cells = .ok () ↔ ∀ cell ∈ cells, ∀ rule,
      layout.rule? cell.1 = some rule → rule.check cell.2 = .ok () := by
  fun_induction Layout.checkCells layout cells with
  | case1 => simp
  | case2 name value others unknown inductionHypothesis =>
      rw [inductionHypothesis, List.forall_mem_cons]
      simp [unknown]
  | case3 name value others rule known checked inductionHypothesis =>
      rw [inductionHypothesis, List.forall_mem_cons]
      simp [known, checked]
  | case4 name value others rule known fault failed =>
      rw [List.forall_mem_cons]
      simp [known, failed]

theorem absent?_eq_none_iff {layout : Layout} {cells : Cells} :
    layout.absent? cells = none ↔ ∀ rule ∈ layout.columns, rule.required = true →
      (field? cells rule.name).isSome = true := by
  rw [Layout.absent?, List.findSome?_eq_none_iff]
  constructor
  · intro none rule member required
    rcases List.mem_iff_getElem?.mp member with ⟨index, indexed⟩
    have here := none (rule, index) (List.mk_mem_zipIdx_iff_getElem?.mpr indexed)
    simpa [required, Option.isSome_iff_ne_none] using here
  · rintro present ⟨rule, index⟩ indexed
    have isSome := present rule (List.fst_mem_of_mem_zipIdx indexed)
    simp only [ite_eq_right_iff, reduceCtorEq, imp_false, not_and, Option.isNone_iff_eq_none]
    intro required absent
    rw [absent] at isSome
    cases isSome required

/-- A column is found by its name, where no other column has the name. -/
theorem rule?_eq_some_iff {layout : Layout} (once : (layout.columns.map (·.name)).Nodup)
    {name : String} {rule : ColumnRule} :
    layout.rule? name = some rule ↔ rule ∈ layout.columns ∧ rule.name = name := by
  constructor
  · intro found
    exact ⟨List.mem_of_find?_eq_some found, beq_iff_eq.mp (List.find?_some found :)⟩
  · rintro ⟨member, rfl⟩
    rcases List.append_of_mem member with ⟨front, back, split⟩
    rw [split, List.map_append, List.map_cons, List.nodup_append] at once
    refine List.find?_eq_some_iff_append.mpr ⟨beq_self_eq_true _, front, back, split, ?_⟩
    intro other earlier
    have apart := once.2.2 _ (List.mem_map_of_mem earlier) _ List.mem_cons_self
    simpa using apart

/-- A row is taken as it is if every column keeps its rule, and refused otherwise. -/
theorem ofFields_eq_ok_iff {layout : Layout} (once : (layout.columns.map (·.name)).Nodup)
    {row cells : Cells} :
    layout.ofFields row = .ok cells ↔ cells = row ∧ ∀ rule ∈ layout.columns, rule.Kept row := by
  have taken : layout.ofFields row = .ok cells ↔
      layout.checkCells row = .ok () ∧ layout.absent? row = none ∧ cells = row := by
    rw [Layout.ofFields]
    cases layout.checkCells row <;> cases layout.absent? row <;>
      simp [bind, Except.bind, pure, Except.pure, eq_comm]
  rw [taken, checkCells_eq_ok_iff, absent?_eq_none_iff]
  constructor
  · rintro ⟨checked, present, same⟩
    refine ⟨same, fun rule member => ⟨present rule member, ?_⟩⟩
    intro cell found
    exact checked _ found rule ((rule?_eq_some_iff once).mpr ⟨member, rfl⟩)
  · rintro ⟨same, kept⟩
    refine ⟨?_, fun rule member => (kept rule member).present, same⟩
    rintro ⟨name, cell⟩ found rule isRule
    rcases (rule?_eq_some_iff once).mp isRule with ⟨member, rfl⟩
    exact (kept rule member).checked cell found

end Json
end TestQuery
