import TestQuery.Query.SyntaxError
import TestQuery.Text.Alphabetic
import TestQuery.Text
import TestQuery.Text.Numeric

namespace TestQuery
namespace Query

open Text

/-!
# From text to tokens

A text is cut into lexemes from left to right; each is as long as it can be.
Blanks between lexemes are skipped.  The first lexeme that is no token ends the
scan.
-/

/-- The greatest number a query can hold. -/
def maxNumber : Nat := Nat.pow 2 63 - 1

/-- The characters between tokens. -/
def isLayout (c : Char) : Bool :=
  c == ' ' || c == '\t' || c == '\r' || c == '\n'

def isWordChar (c : Char) : Bool :=
  isAlphabetic c || isNumeric c || c == '_'

/-- A lexeme: what it means, its characters and the text after it. -/
structure Lexeme where
  meaning : Except SyntaxFault TokenKind
  spelled : List Char
  rest : List Char

namespace Lexeme

/-- A token of one character. -/
def mark (kind : TokenKind) (c : Char) (rest : List Char) : Lexeme :=
  ⟨.ok kind, [c], rest⟩

/-- A string runs to the next quote, or to the end of the text. -/
def string (rest : List Char) : Lexeme :=
  let content := rest.takeWhile (· != '"')
  match rest.dropWhile (· != '"') with
  | [] => ⟨.ok (.string (String.ofList content)), '"' :: content, []⟩
  | close :: following =>
    ⟨.ok (.string (String.ofList content)), '"' :: (content ++ [close]), following⟩

/-- A numeral is a run of digits. -/
def numeral (text : List Char) : Lexeme :=
  let digits := text.takeWhile Char.isDigit
  let value := decimalValue digits
  ⟨if value ≤ maxNumber then .ok (.number value)
    else .error (.numberOutOfRange (String.ofList digits)),
    digits, text.dropWhile Char.isDigit⟩

/-- A word is a keyword or nothing. -/
def word (text : List Char) : Lexeme :=
  let letters := text.takeWhile isWordChar
  ⟨match Keyword.ofWord? letters with
    | some keyword => .ok (.keyword keyword)
    | none => .error (.unknownIdentifier (String.ofList letters)),
    letters, text.dropWhile isWordChar⟩

/-- The lexeme that begins with `c`, which is no layout. -/
def next (c : Char) (rest : List Char) : Lexeme :=
  if c = '=' then mark .equal c rest
  else if c = '(' then mark .leftParen c rest
  else if c = ')' then mark .rightParen c rest
  else if c = ',' then mark .comma c rest
  else if c = '#' then mark .hash c rest
  else if c = '!' then
    match rest with
    | '=' :: following => ⟨.ok .notEqual, ['!', '='], following⟩
    | _ => mark .bang c rest
  else if c = '"' then string rest
  else if c.isDigit then numeral (c :: rest)
  else if isAlphabetic c then word (c :: rest)
  else ⟨.error (.unexpectedCharacter c), [c], rest⟩

theorem length_dropWhile_le (test : Char → Bool) (text : List Char) :
    (text.dropWhile test).length ≤ text.length :=
  (List.dropWhile_suffix test).length_le

theorem length_rest_string_le (rest : List Char) : (string rest).rest.length ≤ rest.length := by
  have bound := length_dropWhile_le (· != '"') rest
  simp only [string]
  split
  · exact Nat.zero_le _
  · rename_i close following dropped
    rw [dropped, List.length_cons] at bound
    exact Nat.le_of_succ_le bound

theorem length_rest_numeral_le {c : Char} (digit : c.isDigit = true) (rest : List Char) :
    (numeral (c :: rest)).rest.length ≤ rest.length := by
  simp only [numeral, List.dropWhile_cons, digit, if_true]
  exact length_dropWhile_le _ _

theorem length_rest_word_le {c : Char} (letter : isAlphabetic c = true) (rest : List Char) :
    (word (c :: rest)).rest.length ≤ rest.length := by
  have continues : isWordChar c = true := by simp [isWordChar, letter]
  simp only [word, List.dropWhile_cons, continues, if_true]
  exact length_dropWhile_le _ _

/-- A lexeme takes at least its first character. -/
theorem length_rest_next_le (c : Char) (rest : List Char) :
    (next c rest).rest.length ≤ rest.length := by
  unfold next
  repeat' split
  all_goals first
    | exact Nat.le_refl _
    | exact Nat.le_succ _
    | exact length_rest_string_le rest
    | exact length_rest_numeral_le ‹_› rest
    | exact length_rest_word_le ‹_› rest

end Lexeme

/-- What a text was cut into: tokens, and the error that ended the scan if one did. -/
structure Scan where
  tokens : List Token
  error? : Option SyntaxError

namespace Scan

/-- Cut a text that starts at byte `position`. -/
def ofChars (position : Nat) (text : List Char) : Scan :=
  match text with
  | [] => ⟨[], none⟩
  | c :: rest =>
    if isLayout c then ofChars (position + c.utf8Size) rest
    else
      let lexeme := Lexeme.next c rest
      let span : Span := ⟨position, position + byteLength lexeme.spelled⟩
      match lexeme.meaning with
      | .error fault => ⟨[], some (.located fault span)⟩
      | .ok kind =>
        let following := ofChars span.stop lexeme.rest
        ⟨⟨kind, span⟩ :: following.tokens, following.error?⟩
termination_by text.length
decreasing_by
  · exact Nat.lt_succ_self _
  · exact Nat.lt_succ_of_le (Lexeme.length_rest_next_le c rest)

def ofText (text : String) : Scan :=
  ofChars 0 text.toList

/-- All tokens, if the scan reached the end of the text. -/
def result (scan : Scan) : Except SyntaxError (List Token) :=
  match scan.error? with
  | some error => .error error
  | none => .ok scan.tokens

end Scan

def tokenize (text : String) : Except SyntaxError (List Token) :=
  (Scan.ofText text).result

end Query
end TestQuery
