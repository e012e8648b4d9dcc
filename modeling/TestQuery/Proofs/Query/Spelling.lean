import TestQuery.Proofs.Text
import TestQuery.Query.Token.Scan

namespace TestQuery
namespace Query

open Text

/-!
# Spellings

How tokens may be written in a text.  A keyword has either case in each letter, a
number has any leading zeros, and blanks stand wherever they do not cut a token in
two.  A blank is needed only where a token would swallow the character after it:
`EndsBefore` says exactly which character that is, so that what is next may stand
right behind a string or a parenthesis.

A scan finds in a spelling the tokens that it spells, and in every text it finds only
tokens that can be spelled.
-/

/-! ## Single tokens -/

/-- The text can stand between quotes: a string ends at the next quote. -/
def Unquoted (text : String) : Prop :=
  '"' ∉ text.toList

/-- The number is none too large for a numeral, and it has no sign. -/
def InRange (value : Int) : Prop :=
  0 ≤ value ∧ value ≤ maxNumber

/-- The ways to write a token. -/
inductive TokenSpelling : TokenKind → List Char → Prop where
  | keyword (word : Keyword) {letters : List Char}
      (inAnyCase : letters.map Char.toLower = word.spelling.toList) :
      TokenSpelling (.keyword word) letters
  | string {content : String} (unquoted : Unquoted content) :
      TokenSpelling (.string content) ('"' :: (content.toList ++ ['"']))
  | number {digits : List Char} (nonempty : digits ≠ [])
      (numeral : ∀ digit ∈ digits, digit.isDigit = true) (fits : decimalValue digits ≤ maxNumber) :
      TokenSpelling (.number (decimalValue digits)) digits
  | leftParen : TokenSpelling .leftParen ['(']
  | rightParen : TokenSpelling .rightParen [')']
  | comma : TokenSpelling .comma [',']
  | hash : TokenSpelling .hash ['#']
  | bang : TokenSpelling .bang ['!']
  | equal : TokenSpelling .equal ['=']
  | notEqual : TokenSpelling .notEqual ['!', '=']

/-- Would the character be taken for a part of the token that it follows? -/
def TokenKind.swallows : TokenKind → Char → Bool
  | .keyword _, c => isWordChar c
  | .number _, c => c.isDigit
  | .bang, c => c == '='
  | _, _ => false

/-- The token ends where the text after it begins. -/
def EndsBefore (kind : TokenKind) (text : List Char) : Prop :=
  ∀ c ∈ text.head?, kind.swallows c = false

/-- The characters that pass a test, where they are followed by one that does not. -/
theorem takeWhile_dropWhile_append {test : Char → Bool} {front rest : List Char}
    (passes : ∀ c ∈ front, test c = true) (stops : ∀ c ∈ rest.head?, test c = false) :
    (front ++ rest).takeWhile test = front ∧ (front ++ rest).dropWhile test = rest := by
  have nothing : rest.takeWhile test = [] ∧ rest.dropWhile test = rest := by
    cases rest with
    | nil => exact ⟨rfl, rfl⟩
    | cons c following =>
        have stop := stops c rfl
        simp [stop]
  rw [List.takeWhile_append_of_pos passes, List.dropWhile_append_of_pos passes, nothing.1,
    nothing.2, List.append_nil]
  exact ⟨rfl, rfl⟩

/-- The letters of a keyword, whatever their case. -/
theorem letter_or_bar_of_keyword {word : Keyword} {letters : List Char}
    (inAnyCase : letters.map Char.toLower = word.spelling.toList) :
    ∀ c ∈ letters, c.isAlpha = true ∨ c = '_' := by
  have spelling : word.spelling.toList.all (fun c => c.isAlpha || c == '_') = true := by
    cases word <;> rfl
  simp only [List.all_eq_true, Bool.or_eq_true, beq_iff_eq] at spelling
  intro c member
  by_cases upper : c.val ≥ 'A'.val ∧ c.val ≤ 'Z'.val
  · exact .inl (Bool.or_eq_true_iff.mpr (.inl (decide_eq_true upper)))
  · have unchanged : c.toLower = c := dif_neg upper
    apply spelling
    rw [← inAnyCase, ← unchanged]
    exact List.mem_map_of_mem member

theorem wordChar_of_letter {c : Char} (letter : c.isAlpha = true) : isWordChar c = true := by
  simp [isWordChar, isAlphabetic, letter]

theorem wordChar_of_keyword {word : Keyword} {letters : List Char}
    (inAnyCase : letters.map Char.toLower = word.spelling.toList) :
    ∀ c ∈ letters, isWordChar c = true := by
  intro c member
  rcases letter_or_bar_of_keyword inAnyCase c member with letter | bar
  · exact wordChar_of_letter letter
  · simp [isWordChar, bar]

/-- A keyword begins with a letter. -/
theorem letter_of_keyword {word : Keyword} {c : Char} {letters : List Char}
    (inAnyCase : (c :: letters).map Char.toLower = word.spelling.toList) : c.isAlpha = true := by
  rcases letter_or_bar_of_keyword inAnyCase c List.mem_cons_self with letter | bar
  · exact letter
  · rw [bar] at inAnyCase
    cases word <;> cases inAnyCase

theorem ofWord?_eq_some {word : Keyword} {letters : List Char}
    (inAnyCase : letters.map Char.toLower = word.spelling.toList) :
    Keyword.ofWord? letters = some word := by
  rw [Keyword.ofWord?, inAnyCase]
  cases word <;> decide

/-- A word is read as the keyword that it spells. -/
theorem word_of_spelling {word : Keyword} {letters rest : List Char}
    (inAnyCase : letters.map Char.toLower = word.spelling.toList)
    (ends : EndsBefore (.keyword word) rest) :
    Lexeme.word (letters ++ rest) = ⟨.ok (.keyword word), letters, rest⟩ := by
  have split := takeWhile_dropWhile_append (wordChar_of_keyword inAnyCase) ends
  simp only [Lexeme.word, split.1, split.2, ofWord?_eq_some inAnyCase]

theorem numeral_of_spelling {digits rest : List Char}
    (numeral : ∀ digit ∈ digits, digit.isDigit = true) (fits : decimalValue digits ≤ maxNumber)
    (ends : ∀ c ∈ rest.head?, c.isDigit = false) :
    Lexeme.numeral (digits ++ rest) = ⟨.ok (.number (decimalValue digits)), digits, rest⟩ := by
  have split := takeWhile_dropWhile_append numeral ends
  simp only [Lexeme.numeral, split.1, split.2, if_pos fits]

theorem string_of_spelling {content : String} (unquoted : Unquoted content)
    (rest : List Char) :
    Lexeme.string (content.toList ++ '"' :: rest) =
      ⟨.ok (.string content), '"' :: (content.toList ++ ['"']), rest⟩ := by
  have inside : ∀ c ∈ content.toList, (c != '"') = true := by
    intro c member
    rw [bne_iff_ne]
    rintro rfl
    exact unquoted member
  have stops : ∀ c ∈ ('"' :: rest).head?, (c != '"') = false := by
    simp
  have split := takeWhile_dropWhile_append inside stops
  simp only [Lexeme.string, split.1, split.2, String.ofList_toList]

theorem not_digit_of_letter {c : Char} (letter : c.isAlpha = true) : c.isDigit = false := by
  apply Bool.eq_false_iff.mpr
  intro digit
  rw [Char.isDigit_iff_toNat] at digit
  have capital : 'A'.val.toNat = 65 := rfl
  have small : 'a'.val.toNat = 97 := rfl
  have nine : '9'.toNat = 57 := rfl
  have atMost : c.val.toNat ≤ '9'.toNat := digit.2
  rcases Bool.or_eq_true_iff.mp letter with upper | lower
  · have bounds := of_decide_eq_true upper
    have atLeast : 'A'.val.toNat ≤ c.val.toNat := UInt32.le_iff_toNat_le.mp bounds.1
    omega
  · have bounds := of_decide_eq_true (Bool.and_eq_true_iff.mp lower).1
    have atLeast : 'a'.val.toNat ≤ c.val.toNat := UInt32.le_iff_toNat_le.mp bounds
    omega

/-- A lexeme that begins with a letter is a word. -/
theorem next_of_letter {c : Char} (letter : c.isAlpha = true) :
    isLayout c = false ∧ ∀ rest, Lexeme.next c rest = Lexeme.word (c :: rest) := by
  have isNo {mark : Char} (noLetter : mark.isAlpha = false) : c ≠ mark := by
    rintro rfl
    rw [letter] at noLetter
    cases noLetter
  have noDigit : ¬ c.isDigit = true := Bool.eq_false_iff.mp (not_digit_of_letter letter)
  refine ⟨by simp [isLayout, isNo], fun rest => ?_⟩
  unfold Lexeme.next
  rw [if_neg (isNo rfl), if_neg (isNo rfl), if_neg (isNo rfl), if_neg (isNo rfl),
    if_neg (isNo rfl), if_neg (isNo rfl), if_neg (isNo rfl), if_neg noDigit,
    if_pos (by rw [isAlphabetic, letter, Bool.true_or])]

/-- A lexeme that begins with a digit is a numeral. -/
theorem next_of_digit {c : Char} (digit : c.isDigit = true) :
    isLayout c = false ∧ ∀ rest, Lexeme.next c rest = Lexeme.numeral (c :: rest) := by
  have isNo {mark : Char} (noDigit : mark.isDigit = false) : c ≠ mark := by
    rintro rfl
    rw [digit] at noDigit
    cases noDigit
  refine ⟨by simp [isLayout, isNo], fun rest => ?_⟩
  unfold Lexeme.next
  rw [if_neg (isNo rfl), if_neg (isNo rfl), if_neg (isNo rfl), if_neg (isNo rfl),
    if_neg (isNo rfl), if_neg (isNo rfl), if_neg (isNo rfl), if_pos digit]

/-- A spelled token is found at the front of a text that it ends before. -/
theorem next_of_spelling {kind : TokenKind} {spelled rest : List Char}
    (spelling : TokenSpelling kind spelled) (ends : EndsBefore kind rest) :
    ∃ c front, spelled = c :: front ∧ isLayout c = false ∧
      Lexeme.next c (front ++ rest) = ⟨.ok kind, spelled, rest⟩ := by
  cases spelling with
  | @keyword word _ inAnyCase =>
      cases spelled with
      | nil => cases word <;> cases inAnyCase
      | cons c front =>
          rcases next_of_letter (letter_of_keyword inAnyCase) with ⟨noLayout, isWord⟩
          refine ⟨c, front, rfl, noLayout, ?_⟩
          rw [isWord]
          exact word_of_spelling inAnyCase ends
  | string unquoted =>
      refine ⟨'"', _, rfl, rfl, ?_⟩
      rw [List.append_assoc]
      exact string_of_spelling unquoted rest
  | number nonempty numeral fits =>
      cases spelled with
      | nil => exact absurd rfl nonempty
      | cons c front =>
          rcases next_of_digit (numeral c List.mem_cons_self) with ⟨noLayout, isNumeral⟩
          refine ⟨c, front, rfl, noLayout, ?_⟩
          rw [isNumeral]
          exact numeral_of_spelling numeral fits ends
  | bang =>
      refine ⟨'!', [], rfl, rfl, ?_⟩
      cases rest with
      | nil => rfl
      | cons c following =>
          have apart : c ≠ '=' := by
            simpa [TokenKind.swallows] using ends c rfl
          unfold Lexeme.next
          simp [Lexeme.mark, apart]
  | _ => exact ⟨_, _, rfl, rfl, rfl⟩

/-! ## Whole texts -/

/-- The ways to write tokens one after another. -/
inductive Spelling : List TokenKind → List Char → Prop where
  | done : Spelling [] []
  | layout {c : Char} {kinds : List TokenKind} {text : List Char} (blank : isLayout c = true)
      (rest : Spelling kinds text) : Spelling kinds (c :: text)
  | token {kind : TokenKind} {kinds : List TokenKind} {spelled text : List Char}
      (first : TokenSpelling kind spelled) (ends : EndsBefore kind text)
      (rest : Spelling kinds text) : Spelling (kind :: kinds) (spelled ++ text)

/-- A scan finds the tokens that a text spells. -/
theorem scan_of_spelling {kinds : List TokenKind} {text : List Char}
    (spelling : Spelling kinds text) (position : Nat) :
    ∃ tokens, Scan.ofChars position text = ⟨tokens, none⟩ ∧ tokens.map Token.kind = kinds := by
  induction spelling generalizing position with
  | done => exact ⟨[], by rw [Scan.ofChars], rfl⟩
  | @layout c kinds text blank rest inductionHypothesis =>
      obtain ⟨tokens, scanned, found⟩ := inductionHypothesis (position + c.utf8Size)
      exact ⟨tokens, by rw [Scan.ofChars, if_pos blank, scanned], found⟩
  | @token kind kinds spelled text first ends rest inductionHypothesis =>
      obtain ⟨c, front, rfl, noLayout, next⟩ := next_of_spelling first ends
      obtain ⟨tokens, scanned, found⟩ :=
        inductionHypothesis (position + byteLength (c :: front))
      refine ⟨⟨kind, position, position + byteLength (c :: front)⟩ :: tokens, ?_, ?_⟩
      · rw [List.cons_append, Scan.ofChars, noLayout]
        simp only [Bool.false_eq_true, if_false, next, scanned]
      · rw [List.map_cons, found]

theorem tokenize_of_spelling {kinds : List TokenKind} {text : List Char}
    (spelling : Spelling kinds text) :
    ∃ tokens, tokenize (String.ofList text) = .ok tokens ∧ tokens.map Token.kind = kinds := by
  obtain ⟨tokens, scanned, found⟩ := scan_of_spelling spelling 0
  refine ⟨tokens, ?_, found⟩
  rw [tokenize, Scan.ofText, String.toList_ofList, scanned]
  rfl

/-! ## Tokens that can be spelled -/

def TokenKind.Writable : TokenKind → Prop
  | .string content => Unquoted content
  | .number value => InRange value
  | _ => True

theorem unquoted_takeWhile (text : List Char) :
    Unquoted (String.ofList (text.takeWhile (· != '"'))) := by
  intro member
  rw [String.toList_ofList] at member
  have passes := List.all_takeWhile (p := (· != '"')) (l := text)
  have inside := List.all_eq_true.mp passes '"' member
  cases inside

/-- Whatever a lexeme means can be written down. -/
theorem writable_of_next {c : Char} {rest : List Char} {kind : TokenKind}
    (meant : (Lexeme.next c rest).meaning = .ok kind) : kind.Writable := by
  unfold Lexeme.next at meant
  repeat' split at meant
  all_goals try (cases meant <;> trivial)
  · simp only [Lexeme.string] at meant
    split at meant <;> cases meant <;> exact unquoted_takeWhile rest
  · simp only [Lexeme.numeral] at meant
    split at meant
    · rename_i fits
      cases meant
      exact ⟨Int.natCast_nonneg _, Int.ofNat_le.mpr fits⟩
    · cases meant
  · simp only [Lexeme.word] at meant
    split at meant
    · cases meant
      trivial
    · cases meant

/-- Every token that a scan finds can be written down. -/
theorem writable_of_scan (position : Nat) (text : List Char) :
    ∀ token ∈ (Scan.ofChars position text).tokens, token.kind.Writable := by
  fun_induction Scan.ofChars position text with
  | case1 => nofun
  | case2 position c rest blank inductionHypothesis => exact inductionHypothesis
  | case3 => nofun
  | case4 position c rest noLayout lexeme span kind meant following inductionHypothesis =>
      intro token member
      rcases List.mem_cons.mp member with rfl | later
      · exact writable_of_next meant
      · exact inductionHypothesis token later

theorem writable_of_tokenize {text : String} {tokens : List Token}
    (success : tokenize text = .ok tokens) : ∀ kind ∈ tokens.map Token.kind, kind.Writable := by
  rw [tokenize, Scan.result] at success
  split at success
  · cases success
  · cases success
    intro kind member
    obtain ⟨token, found, rfl⟩ := List.mem_map.mp member
    exact writable_of_scan 0 text.toList token found

/-! ## One spelling for each token -/

/-- The token in lower case, without leading zeros. -/
def TokenKind.written : TokenKind → List Char
  | .keyword word => word.spelling.toList
  | .string content => '"' :: (content.toList ++ ['"'])
  | .number value => Nat.toDigits 10 value.toNat
  | .leftParen => ['(']
  | .rightParen => [')']
  | .comma => [',']
  | .hash => ['#']
  | .bang => ['!']
  | .equal => ['=']
  | .notEqual => ['!', '=']

/-- Tokens with one blank between them. -/
def writtenKinds : List TokenKind → List Char
  | [] => []
  | [last] => last.written
  | first :: others => first.written ++ ' ' :: writtenKinds others

/-- A token that can be written is spelled so. -/
theorem TokenKind.Writable.spelling {kind : TokenKind} (writable : kind.Writable) :
    TokenSpelling kind kind.written := by
  cases kind with
  | keyword word => exact .keyword word (by cases word <;> decide)
  | string content => exact .string writable
  | number value =>
      obtain ⟨value, rfl⟩ := Int.eq_ofNat_of_zero_le writable.1
      have numeral : ∀ digit ∈ Nat.toDigits 10 value, digit.isDigit = true := fun digit member =>
        Nat.isDigit_of_mem_toDigits (by decide) (by decide) member
      have fits : decimalValue (Nat.toDigits 10 value) ≤ maxNumber := by
        rw [decimalValue_toDigits]
        exact Int.ofNat_le.mp writable.2
      have spelled := TokenSpelling.number Nat.toDigits_ne_nil numeral fits
      rw [decimalValue_toDigits] at spelled
      exact spelled
  | leftParen => exact .leftParen
  | rightParen => exact .rightParen
  | comma => exact .comma
  | hash => exact .hash
  | bang => exact .bang
  | equal => exact .equal
  | notEqual => exact .notEqual

/-- No token takes the blank after it. -/
theorem not_swallows_layout (kind : TokenKind) {c : Char} (blank : isLayout c = true) :
    kind.swallows c = false := by
  have characters : c = ' ' ∨ c = '\t' ∨ c = '\r' ∨ c = '\n' := by
    simpa [isLayout, or_assoc] using blank
  have endsWord : isWordChar c = false := by
    rcases characters with rfl | rfl | rfl | rfl <;> decide +kernel
  cases kind with
  | keyword word => exact endsWord
  | _ => rcases characters with rfl | rfl | rfl | rfl <;> rfl

theorem spelling_writtenKinds {kinds : List TokenKind}
    (writable : ∀ kind ∈ kinds, kind.Writable) : Spelling kinds (writtenKinds kinds) := by
  fun_induction writtenKinds kinds with
  | case1 => exact .done
  | case2 last =>
      have atEnd : EndsBefore last [] := nofun
      have spelled := Spelling.token (writable last List.mem_cons_self).spelling atEnd .done
      rwa [List.append_nil] at spelled
  | case3 first others _ inductionHypothesis =>
      have parted : EndsBefore first (' ' :: writtenKinds others) := by
        rintro c ⟨⟩
        exact not_swallows_layout first rfl
      exact .token (writable first List.mem_cons_self).spelling parted
        (.layout rfl (inductionHypothesis fun kind member =>
          writable kind (List.mem_cons_of_mem first member)))

end Query
end TestQuery
