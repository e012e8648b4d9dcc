import TestQuery.Json
import TestQuery.Json.Reading
import TestQuery.Status
import TestQuery.Uuid.Reading

namespace TestQuery
namespace Json

/-!
# Decoding JSON

Values of the domain are taken out of JSON values.  A record is decoded from an
object by the names of its columns, or from an array by their order; which column
is complained about first follows from the order of the cells.
-/

/-- What a decoder wanted. -/
inductive Wanted where
  | string
  | integer
  | uuid
  | map
  | record (name : String)
  | stringOrMap
  | unit
deriving DecidableEq, Repr

def Wanted.name : Wanted → String
  | .string => "a string"
  | .integer => "i64"
  | .uuid => "a formatted UUID string"
  | .map => "a map"
  | .record name => "struct " ++ name
  | .stringOrMap => "string or map"
  | .unit => "unit"

/-- Why a value cannot be decoded. -/
inductive Fault where
  /-- A value of another kind. -/
  | wrongType (found : Json) (wanted : Wanted)
  /-- A whole number that no signed word of 64 bits holds. -/
  | outOfRange (value : Int)
  | invalidUuid (refusal : Uuid.Refusal)
  | unknownRank (rank : Int)
  | missingField (name : String)
  | duplicateField (name : String)
  /-- An array without the element at `index`, which a record of `size` columns needs. -/
  | tooShort (index : Nat) (record : String) (size : Nat)
  /-- An array with more elements than the record has columns. -/
  | tooLong (length : Nat)
  | unknownVariant (name : String) (known : List String)
  /-- An object with no field or several where one is to name a variant. -/
  | notSingleKey
  /-- A column that should hold a whole number. -/
  | notInteger (column : String)

/-- A name in a message. -/
def ticked (name : String) : String :=
  "`" ++ name ++ "`"

/-- Names in a message, parted by commas. -/
def tickedList : List String → String
  | [] => ""
  | [last] => ticked last
  | first :: others => ticked first ++ ", " ++ tickedList others

def Fault.message : Fault → String
  | .wrongType found wanted => "invalid type: " ++ found.describe ++ ", expected " ++ wanted.name
  | .outOfRange value =>
    "invalid value: " ++ (Json.int value).describe ++ ", expected " ++ Wanted.integer.name
  | .invalidUuid refusal => "UUID parsing failed: " ++ refusal.message
  | .unknownRank rank => s!"unknown status rank {rank}"
  | .missingField name => "missing field " ++ ticked name
  | .duplicateField name => "duplicate field " ++ ticked name
  | .tooShort index record size =>
    s!"invalid length {index}, expected struct {record} with {size} elements"
  | .tooLong length => s!"invalid length {length}, expected fewer elements in array"
  | .unknownVariant name known =>
    "unknown variant " ++ ticked name ++ ", expected one of " ++ tickedList known
  | .notSingleKey => "invalid value: map, expected map with a single key"
  | .notInteger column => "column " ++ ticked column ++ " is missing or not an integer"

/-- A way to take an `α` out of a JSON value. -/
abbrev Decoder (α : Type) := Json → Except Fault α

namespace Decoder

/-! ## Cells -/

def text : Decoder String
  | .string content => .ok content
  | found => .error (.wrongType found .string)

/-- A whole number that a signed word of 64 bits holds. -/
def integer : Decoder Int
  | .int value =>
    if minInt64 ≤ value ∧ value ≤ maxInt64 then .ok value else .error (.outOfRange value)
  | found => .error (.wrongType found .integer)

def uuid : Decoder Uuid
  | .string content =>
    match Uuid.read content with
    | .ok id => .ok id
    | .error refusal => .error (.invalidUuid refusal)
  | found => .error (.wrongType found .uuid)

/-- A status by its rank. -/
def statusOfRank (rank : Int) : Except Fault Status :=
  match Status.ofRank? rank with
  | some status => .ok status
  | none => .error (.unknownRank rank)

/-- A status, stored as its rank. -/
def status : Decoder Status := fun value => do
  let rank ← integer value
  statusOfRank rank

/-- Null, or what the decoder takes. -/
def optional {α : Type} (decoder : Decoder α) : Decoder (Option α)
  | .null => .ok none
  | value => (decoder value).map some

/-- Baggage comes as JSON or as its text; a text that is not JSON is dropped. -/
def baggage : Decoder (Option Json)
  | .null => .ok none
  | .string content => .ok (Json.read? content)
  | value => .ok (some value)

def textMap : Decoder (List (String × String))
  | .object fields => fields.mapM fun (key, value) => (text value).map (key, ·)
  | found => .error (.wrongType found .map)

def variantNamed {α : Type} (known : List String) (ofName? : String → Option α) (name : String) :
    Except Fault α :=
  match ofName? name with
  | some found => .ok found
  | none => .error (.unknownVariant name known)

/-- One of several variants, as its name or as an object with the name as its only
key and null as its value. -/
def variant {α : Type} (known : List String) (ofName? : String → Option α) : Decoder α
  | .string name => variantNamed known ofName? name
  | .object [(name, value)] => do
    let found ← variantNamed known ofName? name
    match value with
    | .null => return found
    | other => .error (.wrongType other .unit)
  | .object _ => .error .notSingleKey
  | found => .error (.wrongType found .stringOrMap)

end Decoder

/-! ## Records -/

/-- A column of a record: its name, what its cell has to be, and whether there has
to be one. -/
structure ColumnRule where
  name : String
  check : Decoder Unit
  required : Bool

namespace ColumnRule

/-- A column that has to be there. -/
def needed {α : Type} (name : String) (decoder : Decoder α) : ColumnRule :=
  ⟨name, fun value => (decoder value).map fun _ => (), true⟩

/-- A column that may be absent. -/
def spare {α : Type} (name : String) (decoder : Decoder α) : ColumnRule :=
  ⟨name, fun value => (decoder value).map fun _ => (), false⟩

end ColumnRule

/-- The columns of a record, in their order. -/
structure Layout where
  name : String
  columns : List ColumnRule

/-- Cells by the name of their column. -/
abbrev Cells := List (String × Json)

namespace Layout

def rule? (layout : Layout) (name : String) : Option ColumnRule :=
  layout.columns.find? (·.name == name)

/-- Check the cells one after the other.  Cells of no column are ignored. -/
def checkCells (layout : Layout) : Cells → Except Fault Unit
  | [] => .ok ()
  | (name, value) :: others =>
    match layout.rule? name with
    | none => layout.checkCells others
    | some rule =>
      match rule.check value with
      | .ok () => layout.checkCells others
      | .error fault => .error fault

/-- The first column that has to be there and is not, and its position. -/
def absent? (layout : Layout) (cells : Cells) : Option (String × Nat) :=
  layout.columns.zipIdx.findSome? fun (rule, index) =>
    if rule.required ∧ (field? cells rule.name).isNone then some (rule.name, index) else none

/-- The checked cells of an object. -/
def ofFields (layout : Layout) (fields : Cells) : Except Fault Cells := do
  layout.checkCells fields
  match layout.absent? fields with
  | some (name, _) => .error (.missingField name)
  | none => return fields

/-- The checked cells of an array, one for each column in order. -/
def ofItems (layout : Layout) (items : List Json) : Except Fault Cells := do
  let cells := (layout.columns.map (·.name)).zip items
  layout.checkCells cells
  match layout.absent? cells with
  | some (_, index) => .error (.tooShort index layout.name layout.columns.length)
  | none =>
    if layout.columns.length < items.length then .error (.tooLong items.length)
    else return cells

def cells (layout : Layout) : Json → Except Fault Cells
  | .object fields => layout.ofFields fields
  | .array items => layout.ofItems items
  | found => .error (.wrongType found (.record layout.name))

end Layout

namespace Cells

/-- Decode a cell that has to be there. -/
def get {α : Type} (cells : Cells) (name : String) (decoder : Decoder α) : Except Fault α :=
  match field? cells name with
  | some value => decoder value
  | none => .error (.missingField name)

/-- Decode a cell, or take the default where there is none. -/
def getD {α : Type} (cells : Cells) (name : String) (decoder : Decoder α) (default : α) :
    Except Fault α :=
  match field? cells name with
  | some value => decoder value
  | none => .ok default

/-- The whole number in a column. -/
def int (cells : Cells) (name : String) : Except Fault Int :=
  match (field? cells name).bind int64? with
  | some value => .ok value
  | none => .error (.notInteger name)

end Cells

end Json
end TestQuery
