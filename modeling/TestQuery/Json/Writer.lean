import TestQuery.Json
import TestQuery.Text

namespace TestQuery
namespace Json

/-!
# Writing JSON

A value is written on one line without spaces, or over several lines with an
indentation of two spaces.  In strings, quotes, backslashes and controls are
escaped and nothing else.
-/

def escapedChar (c : Char) : List Char :=
  if c = '"' then ['\\', '"']
  else if c = '\\' then ['\\', '\\']
  else if c = '\x08' then ['\\', 'b']
  else if c = '\x0c' then ['\\', 'f']
  else if c = '\n' then ['\\', 'n']
  else if c = '\r' then ['\\', 'r']
  else if c = '\t' then ['\\', 't']
  else if c.toNat < 0x20 then
    ['\\', 'u', '0', '0', Text.hexDigit (c.toNat / 16), Text.hexDigit (c.toNat % 16)]
  else [c]

def writtenString (text : String) : String :=
  String.ofList ('"' :: (text.toList.flatMap escapedChar ++ ['"']))

def joined (separator : String) : List String → String
  | [] => ""
  | [last] => last
  | first :: others => first ++ separator ++ joined separator others

mutual

/-- A value on one line. -/
def compact : Json → String
  | .null => "null"
  | .bool true => "true"
  | .bool false => "false"
  | .int value => toString value
  | .float value => value.toString
  | .string text => writtenString text
  | .array items => "[" ++ joined "," (compactItems items) ++ "]"
  | .object fields => "\x7b" ++ joined "," (compactFields fields) ++ "\x7d"

def compactItems : List Json → List String
  | [] => []
  | item :: others => compact item :: compactItems others

def compactFields : List (String × Json) → List String
  | [] => []
  | (key, value) :: others =>
    (writtenString key ++ ":" ++ compact value) :: compactFields others

end

/-- A line break and the indentation of the next line. -/
def lineBreak (depth : Nat) : String :=
  String.ofList ('\n' :: List.replicate (2 * depth) ' ')

mutual

/-- A value over several lines, its first line already indented.  Empty arrays and
objects stay on their line. -/
def prettyAt (depth : Nat) : Json → String
  | .array [] => "[]"
  | .array (first :: others) =>
    "[" ++ lineBreak (depth + 1) ++
      joined ("," ++ lineBreak (depth + 1)) (prettyItems (depth + 1) (first :: others)) ++
      lineBreak depth ++ "]"
  | .object [] => "\x7b\x7d"
  | .object (first :: others) =>
    "\x7b" ++ lineBreak (depth + 1) ++
      joined ("," ++ lineBreak (depth + 1)) (prettyFields (depth + 1) (first :: others)) ++
      lineBreak depth ++ "\x7d"
  | scalar => compact scalar

def prettyItems (depth : Nat) : List Json → List String
  | [] => []
  | item :: others => prettyAt depth item :: prettyItems depth others

def prettyFields (depth : Nat) : List (String × Json) → List String
  | [] => []
  | (key, value) :: others =>
    (writtenString key ++ ": " ++ prettyAt depth value) :: prettyFields depth others

end

/-- A value over several lines. -/
def pretty (value : Json) : String :=
  prettyAt 0 value

end Json
end TestQuery
