import TestQuery.Text
import TestQuery.Uuid

namespace TestQuery
namespace Uuid

/-!
# Reading UUIDs

Four forms are accepted, with digits in either case: 32 digits; the hyphenated
form; the hyphenated form in braces; and the hyphenated form after `urn:uuid:`,
in any case.  A refusal names the first thing that rules every form out.
-/

/-- Why a text is not a UUID. -/
inductive Refusal where
  /-- The text has a length that no form has. -/
  | length (found : Nat)
  /-- A character that no form has at this place. -/
  | character (found : Char) (index : Nat)
  /-- The number of groups is not five. -/
  | groupCount (found : Nat)
  /-- A group of the wrong length. -/
  | groupLength (group expected found : Nat)
deriving DecidableEq, Repr

def Refusal.message : Refusal → String
  | .length found => s!"invalid length: found {found}"
  | .character found index => s!"invalid character: found `{found}` at {index}"
  | .groupCount found => s!"invalid group count: expected 5, found {found}"
  | .groupLength group expected found =>
    s!"invalid group length in group {group}: expected {expected}, found {found}"

/-! ## The accepted forms -/

/-- The bytes spelled by pairs of digits. -/
def bytesOfDigits? : List Char → Option (List UInt8)
  | [] => some []
  | [_] => none
  | high :: low :: rest => do
    let highValue ← Text.hexValue? high
    let lowValue ← Text.hexValue? low
    let others ← bytesOfDigits? rest
    return UInt8.ofNat (highValue * 16 + lowValue) :: others

def ofDigits? (text : List Char) : Option Uuid :=
  (bytesOfDigits? text).bind ofBytes?

/-- Take out a hyphen after each group of the given sizes; each has to be there. -/
def dropHyphens? : (groups : List Nat) → List Char → Option (List Char)
  | [], text => some text
  | size :: groups, text =>
    match text.drop size with
    | '-' :: rest => (dropHyphens? groups rest).map (text.take size ++ ·)
    | _ => none

def ofHyphenated? (text : List Char) : Option Uuid :=
  (dropHyphens? [8, 4, 4, 4] text).bind ofDigits?

/-- What stands between braces, if the text is in braces. -/
def unbraced? : List Char → Option (List Char)
  | '\x7b' :: rest => if rest.getLast? = some '\x7d' then some rest.dropLast else none
  | _ => none

/-- The letters that introduce a UUID as a name. -/
def urnLead : List Char := "urn:uuid:".toList

/-- What follows `urn:uuid:`, its letters in any case. -/
def afterUrn? (text : List Char) : Option (List Char) :=
  if (text.take urnLead.length).map Char.toLower = urnLead then some (text.drop urnLead.length)
  else none

/-- A hyphenated UUID in one of its wrappings. -/
def unwrapped? (text : List Char) : Option (List Char) :=
  (unbraced? text).or (afterUrn? text)

/-- Read any of the four forms. -/
def ofText? (text : List Char) : Option Uuid :=
  ((ofDigits? text).or (ofHyphenated? text)).or ((unwrapped? text).bind ofHyphenated?)

/-! ## Refusals -/

/-- The places of the hyphens among the digits.  `offset` is how far the
scanned part lies inside the whole text. -/
def hyphenPlaces (offset : Nat) : (place : Nat) → List Char → Except Refusal (List Nat)
  | _, [] => .ok []
  | place, c :: rest =>
    if (Text.hexValue? c).isSome then hyphenPlaces offset (place + 1) rest
    else if c = '-' then
      match hyphenPlaces offset (place + 1) rest with
      | .ok places => .ok (place :: places)
      | .error refusal => .error refusal
    else .error (.character c (place + offset))

/-- The first of the first four groups that does not end where it should. -/
def misplaced? : (group start : Nat) → (sizes places : List Nat) → Option Refusal
  | group, start, size :: sizes, place :: places =>
    if place = start + size then misplaced? (group + 1) (place + 1) sizes places
    else some (.groupLength group size (place - start))
  | _, _, _, _ => none

/-- What is wrong with the hyphens of a text of `total` bytes. -/
def badGroups (total : Nat) (places : List Nat) : Refusal :=
  if places.length ≠ 4 then .groupCount (places.length + 1)
  else (misplaced? 0 0 [8, 4, 4, 4] places).getD (.groupLength 4 12 (total - 24))

/-- The part of a text of the right total length that should be a hyphenated
UUID: its inside, when it is wrapped as one. -/
def core (text : List Char) : List Char :=
  let size := Text.byteLength text
  if size = 38 then (unbraced? text).getD text
  else if size = 45 then (afterUrn? text).getD text
  else text

/-- Why a text in none of the four forms is refused.  A text of 36 bytes can
only be hyphenated; otherwise braces or `urn:uuid:` decide that it is, and a
hyphen does too. -/
def diagnose (text : List Char) : Refusal :=
  let inner := core text
  let total := Text.byteLength inner
  if total = 0 ∨ 45 < total then .length total
  else
    let (offset, scanned, hyphenated) :=
      if total = 36 then (0, inner, true)
      else if let some inside := unbraced? inner then (1, inside, true)
      else if let some inside := afterUrn? inner then (urnLead.length, inside, true)
      else (0, inner, false)
    match hyphenPlaces offset 0 scanned with
    | .error refusal => refusal
    | .ok [] => if hyphenated then badGroups total [] else .length total
    | .ok places => badGroups total places

def read (text : String) : Except Refusal Uuid :=
  match ofText? text.toList with
  | some id => .ok id
  | none => .error (diagnose text.toList)

end Uuid
end TestQuery
