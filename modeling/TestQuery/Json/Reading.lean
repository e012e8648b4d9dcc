import TestQuery.Json.Number
import TestQuery.Reader
import TestQuery.Text

namespace TestQuery
namespace Json

open Text

/-!
# Reading JSON

A strict reader of JSON texts, from left to right.  A text is refused at the
first place where it cannot be continued to a JSON text, or because it ends too
early; the two are told apart.
-/

/-- Why a text is not JSON. -/
inductive TextFault where
  /-- Something stands where it must not. -/
  | malformed
  /-- The text ends before the value does. -/
  | truncated
deriving DecidableEq, Repr

abbrev TextReader (α : Type) := Reader Char TextFault α

abbrev TextConsumer (α : Type) := Consumer Char TextFault α

/-! ## Characters -/

/-- The characters between the parts of a value. -/
def isLayout (c : Char) : Bool :=
  c == ' ' || c == '\n' || c == '\t' || c == '\r'

def layout : TextReader Unit := do
  let _ ← Reader.takeWhile isLayout

/-- Take the next character, whatever it is. -/
def anyChar : TextConsumer Char :=
  Consumer.symbol .truncated .ok

/-- Take a character that `accept` can use. -/
def expectChar {α : Type} (accept : Char → Option α) : TextConsumer α :=
  Consumer.symbol .truncated fun c =>
    match accept c with
    | some result => .ok result
    | none => .error .malformed

def exactly (wanted : Char) : TextConsumer Unit :=
  expectChar fun c => if c = wanted then some () else none

def word : List Char → TextReader Unit
  | [] => return ()
  | c :: rest => do
    exactly c
    word rest

/-- After layout, take a character that `accept` can use. -/
def afterLayout {α : Type} (accept : Char → Option α) : TextConsumer α :=
  Consumer.after layout fun _ => expectChar accept

/-! ## Strings -/

/-- Four hexadecimal digits.  With fewer than four bytes left the text is cut off. -/
def hexUnit : TextReader Nat where
  run text :=
    if byteLength (text.take 4) < 4 then .error .truncated
    else
      match text with
      | a :: b :: c :: d :: rest =>
        match hexValue? a, hexValue? b, hexValue? c, hexValue? d with
        | some w, some x, some y, some z => .ok (((w * 16 + x) * 16 + y) * 16 + z, rest)
        | _, _, _, _ => .error .malformed
      | _ => .error .malformed
  bounded := by
    intro text result rest success
    split at success
    · cases success
    · split at success
      · split at success
        · cases success
          simp only [List.length_cons]
          omega
        · cases success
      · cases success

/-- The first half of a surrogate pair. -/
def isHighSurrogate (unit : Nat) : Bool :=
  0xD800 ≤ unit && unit ≤ 0xDBFF

/-- The second half of a surrogate pair. -/
def isLowSurrogate (unit : Nat) : Bool :=
  0xDC00 ≤ unit && unit ≤ 0xDFFF

/-- The characters that stand for one character after a backslash. -/
def shortEscape? (c : Char) : Option Char :=
  if c = '"' ∨ c = '\\' ∨ c = '/' then some c
  else if c = 'b' then some '\x08'
  else if c = 'f' then some '\x0c'
  else if c = 'n' then some '\n'
  else if c = 'r' then some '\r'
  else if c = 't' then some '\t'
  else none

/-- The second half of the surrogate pair that `high` begins. -/
def lowerHalf (high : Nat) : TextReader Char := do
  exactly '\\'
  exactly 'u'
  let low ← hexUnit
  if isLowSurrogate low then
    return Char.ofNat (0x10000 + (high - 0xD800) * 0x400 + (low - 0xDC00))
  else Reader.refuse .malformed

/-- What follows a backslash.  Surrogates come in pairs. -/
def escape : TextReader Char := do
  let c ← anyChar
  if c = 'u' then
    let unit ← hexUnit
    if isLowSurrogate unit then Reader.refuse .malformed
    else if isHighSurrogate unit then lowerHalf unit
    else return Char.ofNat unit
  else
    match shortEscape? c with
    | some meaning => return meaning
    | none => Reader.refuse .malformed

/-- What follows a backslash in a string whose content nobody asks for: any four
digits will do after `u`. -/
def looseEscape : TextReader Char := do
  let c ← anyChar
  if c = 'u' then
    let unit ← hexUnit
    return Char.ofNat unit
  else
    match shortEscape? c with
    | some meaning => return meaning
    | none => Reader.refuse .malformed

/-- The rest of a string after its opening quote. -/
def stringRun (escape : TextReader Char) (text : List Char) :
    Except TextFault (List Char × List Char) :=
  match text with
  | [] => .error .truncated
  | c :: following =>
    if c = '"' then .ok ([], following)
    else if c = '\\' then
      match _ : escape.run following with
      | .error fault => .error fault
      | .ok (meaning, rest) =>
        match stringRun escape rest with
        | .error fault => .error fault
        | .ok (others, remaining) => .ok (meaning :: others, remaining)
    else if c.toNat < 0x20 then .error .malformed
    else
      match stringRun escape following with
      | .error fault => .error fault
      | .ok (others, remaining) => .ok (c :: others, remaining)
termination_by text.length
decreasing_by
  · exact Nat.lt_succ_of_le (escape.bounded ‹_›)
  · exact Nat.lt_succ_self _

theorem stringRun_bounded {escape : TextReader Char} {text content remaining : List Char}
    (success : stringRun escape text = .ok (content, remaining)) :
    remaining.length ≤ text.length := by
  fun_induction stringRun escape text generalizing content remaining with
  | case1 => cases success
  | case2 => cases success; exact Nat.le_succ _
  | case3 => cases success
  | case4 => cases success
  | case5 following meaning rest escaped others left recursion _ hypothesis =>
    cases success
    exact Nat.le_trans (hypothesis recursion) (Nat.le_succ_of_le (escape.bounded escaped))
  | case6 => cases success
  | case7 => cases success
  | case8 c following _ _ _ others left recursion hypothesis =>
    cases success
    exact Nat.le_succ_of_le (hypothesis recursion)

def stringBody (escape : TextReader Char) : TextReader (List Char) where
  run := stringRun escape
  bounded := stringRun_bounded

/-! ## Numbers -/

def someDigits : TextConsumer (List Char) :=
  (expectChar fun c => if c.isDigit then some c else none).andThen fun first => do
    let others ← Reader.takeWhile Char.isDigit
    return first :: others

/-- The digits before the point.  A leading zero stands alone. -/
def wholeDigits : TextConsumer (List Char) :=
  someDigits.andThen fun digits =>
    match digits with
    | '0' :: _ :: _ => Reader.refuse .malformed
    | _ => return digits

def fraction : TextReader (Option (List Char)) := do
  let next ← Reader.peek
  if next = some '.' then
    let _ : Char ← anyChar
    let digits ← someDigits
    return some digits
  else return none

/-- The sign of an exponent: is it a minus? -/
def exponentSign : TextReader Bool := do
  let next ← Reader.peek
  if next = some '-' ∨ next = some '+' then
    let sign ← anyChar
    return sign == '-'
  else return false

def exponent : TextReader (Option (Bool × List Char)) := do
  let next ← Reader.peek
  if next = some 'e' ∨ next = some 'E' then
    let _ : Char ← anyChar
    let negative ← exponentSign
    let digits ← someDigits
    return some (negative, digits)
  else return none

def numeral (negative : Bool) : TextConsumer Numeral :=
  wholeDigits.andThen fun whole => do
    let fraction ← fraction
    let exponent ← exponent
    return ⟨negative, whole, fraction, exponent⟩

def number (negative : Bool) : TextConsumer Json :=
  (numeral negative).andThen fun numeral =>
    match numeral.value? with
    | some value => return value
    | none => Reader.refuse .malformed

/-- A number whose value nobody asks for.  One that is cut off counts as
malformed. -/
def looseNumber (negative : Bool) : TextConsumer Json :=
  ((numeral negative).mapError fun _ => .malformed).andThen fun _ => return .null

/-! ## Values -/

/-- How strings and numbers are read. -/
structure Leaves where
  /-- What follows a backslash. -/
  escaped : TextReader Char
  /-- A number after its sign. -/
  unsigned : (negative : Bool) → TextConsumer Json

namespace Leaves

/-- Every string and number has a value. -/
def exact : Leaves := ⟨escape, number⟩

/-- Strings and numbers only have the right form. -/
def loose : Leaves := ⟨looseEscape, looseNumber⟩

def string (leaves : Leaves) : TextReader String := do
  let content ← stringBody leaves.escaped
  return String.ofList content

end Leaves

/-- Does another item follow, or does the list close? -/
def another (close : Char) : TextConsumer Bool :=
  afterLayout fun c => if c = ',' then some true else if c = close then some false else none

/-- Items up to the closing character, after the opening one. -/
def items {α : Type} (close : Char) (item : TextConsumer α) : TextReader (List α) := do
  layout
  let next ← Reader.peek
  if next = some close then
    let _ : Char ← anyChar
    return []
  else Reader.separated item (another close)

/-- A field of an object. -/
def member (leaves : Leaves) (value : TextConsumer Json) : TextConsumer (String × Json) :=
  (afterLayout fun c => if c = '"' then some () else none).andThen fun _ => do
    let key ← leaves.string
    afterLayout fun c => if c = ':' then some () else none
    let content ← value
    return (key, content)

/-- A fixed word and the value it stands for. -/
def constant (first : Char) (others : List Char) (value : Json) : TextConsumer Json :=
  (exactly first).andThen fun _ => do
    word others
    return value

/-- A value that begins with `first`.  Without `inner` nothing may be nested in it. -/
def valueFrom (leaves : Leaves) (inner : Option (Unit → TextConsumer Json)) (first : Char) :
    TextConsumer Json :=
  if first = 'n' then constant 'n' ['u', 'l', 'l'] .null
  else if first = 't' then constant 't' ['r', 'u', 'e'] (.bool true)
  else if first = 'f' then constant 'f' ['a', 'l', 's', 'e'] (.bool false)
  else if first = '"' then
    anyChar.andThen fun _ => do
      let text ← leaves.string
      return .string text
  else if first = '-' then anyChar.andThen fun _ => leaves.unsigned true
  else if first.isDigit then leaves.unsigned false
  else
    match inner with
    | none => Consumer.refuse .malformed
    | some value =>
      if first = '[' then
        anyChar.andThen fun _ => do
          let elements ← items ']' (value ())
          return .array elements
      else if first = '\x7b' then
        anyChar.andThen fun _ => do
          let fields ← items '\x7d' (member leaves (value ()))
          return .object (sortFields fields)
      else Consumer.refuse .malformed

/-- A value after layout, with arrays and objects nested to at most the given
depth. -/
def value (leaves : Leaves) : (depth : Nat) → TextConsumer Json
  | 0 => Consumer.after layout fun _ => Consumer.choose .truncated (valueFrom leaves none)
  | depth + 1 =>
    Consumer.after layout fun _ =>
      Consumer.choose .truncated (valueFrom leaves (some fun _ => value leaves depth))

/-- After a value only layout may follow. -/
def closing (text : List Char) : Except TextFault Unit :=
  if text.all isLayout then .ok () else .error .malformed

/-- How deep arrays and objects may be nested. -/
def depthLimit : Nat := 127

def read (text : String) : Except TextFault Json :=
  match (value .exact depthLimit).run text.toList with
  | .error fault => .error fault
  | .ok (result, rest) =>
    match closing rest with
    | .error fault => .error fault
    | .ok () => .ok result

/-- The value that a text spells, if it spells one. -/
def read? (text : String) : Option Json :=
  (read text).toOption

/-- Skip a value of any depth: a text has no room for more nesting than it has
characters. -/
def skipped : TextReader Unit where
  run text :=
    match (value .loose text.length).run text with
    | .error fault => .error fault
    | .ok (_, rest) => .ok ((), rest)
  bounded := by
    intro text result rest success
    split at success
    · cases success
    · cases success
      exact (value .loose text.length).bounded ‹_›

end Json
end TestQuery
