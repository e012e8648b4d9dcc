import TestQuery.Json.Decoder
import TestQuery.Json.Reading
import TestQuery.Plan

namespace TestQuery
namespace Settings

open Json

/-!
# Reading settings

Settings are a JSON text, read from left to right; what is absent keeps its
default.  A record is an object, whose unknown fields are skipped, or an array of
its fields in their order.  The first problem in the text is reported, whether the
text is no JSON there or holds a value that does not fit.
-/

/-- Why a text gives no settings. -/
inductive Refusal where
  /-- The text is not JSON. -/
  | text (fault : TextFault)
  /-- A value does not fit. -/
  | value (fault : Fault)

abbrev SettingsReader (α : Type) := Reader Char Refusal α

abbrev SettingsConsumer (α : Type) := Consumer Char Refusal α

def json {α : Type} (reader : TextReader α) : SettingsReader α :=
  reader.mapError .text

def jsonSome {α : Type} (consumer : TextConsumer α) : SettingsConsumer α :=
  consumer.mapError .text

/-! ## Values -/

/-- A value that begins with `first` and is not what was wanted.  Of an array or an
object no more is read. -/
def unwanted {α : Type} (wanted : Wanted) (first : Char) : SettingsConsumer α :=
  if first = '[' then Consumer.refuse (.value (.wrongType (.array []) wanted))
  else if first = '\x7b' then Consumer.refuse (.value (.wrongType (.object []) wanted))
  else
    (jsonSome (valueFrom .exact none first)).andThen fun found =>
      Reader.refuse (.value (.wrongType found wanted))

/-- After layout, let the first character of a value choose how it is read. -/
def byFirst {α : Type} (chosen : Char → SettingsConsumer α) : SettingsConsumer α :=
  Consumer.after (json layout) fun _ => Consumer.choose (.text .truncated) chosen

/-- A string, where JSON allows nothing else. -/
def quotedText : SettingsConsumer String :=
  (jsonSome (afterLayout fun c => if c = '"' then some () else none)).andThen fun _ =>
    json Leaves.exact.string

/-- A string among other values. -/
def textValue : SettingsConsumer String :=
  byFirst fun first => if first = '"' then quotedText else unwanted .string first

def nullValue : SettingsConsumer Unit :=
  byFirst fun first =>
    if first = 'n' then (jsonSome (constant 'n' ['u', 'l', 'l'] .null)).andThen fun _ => return ()
    else unwanted .unit first

/-- Take this character after layout. -/
def mark (wanted : Char) : SettingsReader Unit :=
  json (afterLayout fun c => if c = wanted then some () else none)

def dialectNamed (name : String) : SettingsReader Sql.Dialect :=
  match Sql.Dialect.ofExactName? name with
  | some dialect => return dialect
  | none => Reader.refuse (.value (.unknownVariant name (Sql.Dialect.all.map Sql.Dialect.name)))

/-- A dialect: its name, or an object with the name as its only key and null as the
value. -/
def dialectValue : SettingsConsumer Sql.Dialect :=
  byFirst fun first =>
    if first = '"' then
      quotedText.andThen dialectNamed
    else if first = '\x7b' then
      (jsonSome anyChar).andThen fun _ => do
        let name ← quotedText
        let dialect ← dialectNamed name
        mark ':'
        nullValue
        mark '\x7d'
        return dialect
    else Consumer.refuse (.text .malformed)

/-! ## Records -/

/-- A field of a record: its name, and how a value is read into the record. -/
structure Field (α : Type) where
  name : String
  read : α → SettingsConsumer α

/-- The fields of a record, in their order. -/
structure Schema (α : Type) where
  name : String
  fields : List (Field α)

namespace Schema

variable {α : Type}

/-- A field of an object, read into the record.  Also keeps the names of the fields
that were there. -/
def member (schema : Schema α) (state : List String × α) : SettingsConsumer (List String × α) :=
  quotedText.andThen fun key => do
    let (seen, record) := state
    match schema.fields.find? (·.name == key) with
    | none =>
      mark ':'
      json skipped
      return (seen, record)
    | some field =>
      if key ∈ seen then Reader.refuse (.value (.duplicateField key))
      else
        mark ':'
        let changed ← field.read record
        return (key :: seen, changed)

/-- The fields of an object after its opening brace. -/
def members (schema : Schema α) (record : α) : SettingsReader α := do
  json layout
  let next ← Reader.peek
  if next = some '\x7d' then
    let _ : Char ← jsonSome anyChar
    return record
  else
    let (_, result) ← Reader.accumulate schema.member (json (another '\x7d')) ([], record)
    return result

/-- The elements of an array after its opening bracket, or after the elements
before them.  Fields without an element keep their value. -/
def elements (isFirst : Bool) : List (Field α) → α → SettingsReader α
  | [], record => do
    mark ']'
    return record
  | field :: fields, record => do
    json layout
    let next ← Reader.peek
    if next = some ']' then
      let _ : Char ← jsonSome anyChar
      return record
    else
      if !isFirst then mark ','
      let changed ← field.read record
      elements false fields changed

/-- A record, starting from its default. -/
def read (schema : Schema α) (record : α) : SettingsConsumer α :=
  byFirst fun first =>
    if first = '[' then (jsonSome anyChar).andThen fun _ => elements true schema.fields record
    else if first = '\x7b' then (jsonSome anyChar).andThen fun _ => schema.members record
    else unwanted (.record schema.name) first

end Schema

/-- The names of the tables. -/
def tablesSchema : Schema Sql.TableNames where
  name := "TableNames"
  fields := [
    ⟨"sessions", fun tables =>
      textValue.andThen fun name => return { tables with sessions := name }⟩,
    ⟨"testcases", fun tables =>
      textValue.andThen fun name => return { tables with testcases := name }⟩,
    ⟨"labels", fun tables =>
      textValue.andThen fun name => return { tables with labels := name }⟩]

/-- The settings. -/
def schema : Schema Settings where
  name := "CompilerConfig"
  fields := [
    ⟨"dialect", fun settings =>
      dialectValue.andThen fun dialect => return { settings with dialect := dialect }⟩,
    ⟨"tables", fun settings =>
      (tablesSchema.read {}).andThen fun tables => return { settings with tables := tables }⟩]

/-- The settings that a text gives. -/
def read (text : String) : Except Refusal Settings :=
  match (schema.read {}).run text.toList with
  | .error refusal => .error refusal
  | .ok (settings, rest) =>
    match closing rest with
    | .ok () => .ok settings
    | .error fault => .error (.text fault)

def tablesJson (tables : Sql.TableNames) : Json :=
  .object [
    ("sessions", .string tables.sessions),
    ("testcases", .string tables.testcases),
    ("labels", .string tables.labels)]

def toJson (settings : Settings) : Json :=
  .object [
    ("dialect", .string settings.dialect.name),
    ("tables", tablesJson settings.tables)]

/-! ## Files -/

/-- What stands at a path. -/
inductive File where
  | missing
  | directory
  | content (bytes : ByteArray)

/-- Why a file has no text. -/
inductive AccessFault where
  | notFound (path : String)
  | unreadable (path reason : String)
deriving DecidableEq, Repr

def AccessFault.message : AccessFault → String
  | .notFound path => "config file not found: " ++ path
  | .unreadable path reason => "cannot read config file " ++ path ++ ": " ++ reason

def File.text (path : String) : File → Except AccessFault String
  | .missing => .error (.notFound path)
  | .directory => .error (.unreadable path "Is a directory (os error 21)")
  | .content bytes =>
    match String.fromUTF8? bytes with
    | some text => .ok text
    | none => .error (.unreadable path "stream did not contain valid UTF-8")

/-- Why a file gives no settings. -/
inductive LoadFault where
  | access (fault : AccessFault)
  | invalid (refusal : Refusal)

def load (path : String) (file : File) : Except LoadFault Settings :=
  match file.text path with
  | .error fault => .error (.access fault)
  | .ok text => (read text).mapError .invalid

/-- The settings of a file, or the usual ones where it gives none. -/
def loadD (path : String) (file : File) : Settings :=
  match load path file with
  | .ok settings => settings
  | .error _ => {}

end Settings
end TestQuery
