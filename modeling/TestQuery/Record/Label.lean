import TestQuery.Json.Decoder

namespace TestQuery
namespace Record

open Json

/-!
# Labels

A label is a key that a session carries, with or without a value.
-/

/-- A label; one without a value has the empty one. -/
structure Label where
  key : String
  value : String
deriving DecidableEq

namespace Label

def layout : Layout where
  name := "LabelRow"
  columns := [
    .needed "key" Decoder.text,
    .spare "value" (Decoder.optional Decoder.text)]

def decode : Decoder Label := fun value => do
  let cells ← layout.cells value
  let key ← cells.get "key" Decoder.text
  let content ← cells.getD "value" (Decoder.optional Decoder.text) none
  return ⟨key, content.getD ""⟩

/-- The values of labels by key, in increasing order of the keys.  Of labels with
the same key the last one counts. -/
def collect (labels : List Label) : List (String × String) :=
  sortFields (labels.map fun label => (label.key, label.value))

end Label

end Record
end TestQuery
