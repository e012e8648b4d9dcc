import TestQuery.Proofs.Query.Placement
import TestQuery.Proofs.Query.Spelling
import TestQuery.Query.Error
import Mathlib.Data.List.TakeWhile

namespace TestQuery
namespace Query

open Text

/-!
# The layout of a query

Tokens may be laid out with any blanks between them, and most of them with none.  Only
where two words, two numerals, a word and a numeral after it, or the two halves of `!=`
would run together does a blank have to part them.

However a query is laid out, the same tokens are found in it; and since reading does not
look at where they stand, the same query is read, or the same fault is reported.
-/

/-! ## Blanks -/

/-- A run of blanks, which may be empty. -/
def Blank (gap : List Char) : Prop :=
  ∀ c ∈ gap, isLayout c = true

/-- Without a blank between them the tokens would run together. -/
def TokenKind.needsGap : TokenKind → TokenKind → Bool
  | .keyword _, .keyword _ | .keyword _, .number _ | .number _, .number _ | .bang, .equal => true
  | _, _ => false

/-- The ways to lay out tokens after the token `before`, or at the beginning of a text.
Each token is spelled in any way, blanks come before each and after the last. -/
inductive LaidOut : (before : Option TokenKind) → List TokenKind → List Char → Prop where
  | done {before : Option TokenKind} {gap : List Char} (blank : Blank gap) : LaidOut before [] gap
  | token {before : Option TokenKind} {kind : TokenKind} {kinds : List TokenKind}
      {gap spelled text : List Char} (blank : Blank gap)
      (parted : ∀ previous ∈ before, previous.needsGap kind = true → gap ≠ [])
      (spelling : TokenSpelling kind spelled) (rest : LaidOut (some kind) kinds text) :
      LaidOut before (kind :: kinds) (gap ++ (spelled ++ text))

/-! ## Which tokens run together -/

/-- A token swallows the beginning of the next one if and only if a blank has to part them. -/
theorem swallows_eq_needsGap (previous : TokenKind) {kind : TokenKind} {c : Char}
    {front : List Char} (spelling : TokenSpelling kind (c :: front)) :
    previous.swallows c = previous.needsGap kind := by
  cases previous with
  | keyword word =>
      cases spelling with
      | keyword next inAnyCase => exact wordChar_of_letter (letter_of_keyword inAnyCase)
      | number nonempty numeral fits =>
          have digit := numeral c List.mem_cons_self
          change isWordChar c = true
          simp [isWordChar, isNumeric, digit]
      | _ =>
          change isWordChar _ = false
          decide +kernel
  | number value =>
      cases spelling with
      | keyword next inAnyCase => exact not_digit_of_letter (letter_of_keyword inAnyCase)
      | number nonempty numeral fits => exact numeral c List.mem_cons_self
      | _ => rfl
  | bang =>
      cases spelling with
      | keyword next inAnyCase =>
          have letter := letter_of_keyword inAnyCase
          apply beq_eq_false_iff_ne.mpr
          rintro rfl
          cases letter
      | number nonempty numeral fits =>
          have digit := numeral c List.mem_cons_self
          apply beq_eq_false_iff_ne.mpr
          rintro rfl
          cases digit
      | _ => rfl
  | _ => rfl

/-- Blanks before tokens are passed over. -/
theorem Spelling.after_blank {gap : List Char} (blank : Blank gap) {kinds : List TokenKind}
    {text : List Char} (spelling : Spelling kinds text) : Spelling kinds (gap ++ text) := by
  induction gap with
  | nil => exact spelling
  | cons c gap inductionHypothesis =>
      rcases List.forall_mem_cons.mp blank with ⟨first, others⟩
      exact .layout first (inductionHypothesis others)

theorem endsBefore_blank (kind : TokenKind) {c : Char} {gap : List Char} (blank : Blank (c :: gap))
    (text : List Char) : EndsBefore kind (c :: gap ++ text) := by
  rintro next ⟨⟩
  exact not_swallows_layout kind (blank c List.mem_cons_self)

/-- Tokens that are laid out are spelled, each ending before the next. -/
theorem LaidOut.spelling {before : Option TokenKind} {kinds : List TokenKind} {text : List Char}
    (laidOut : LaidOut before kinds text) :
    (∀ previous ∈ before, EndsBefore previous text) ∧ Spelling kinds text := by
  induction laidOut with
  | @done before gap blank =>
      have spelled := Spelling.done.after_blank blank
      rw [List.append_nil] at spelled
      refine ⟨fun previous _ => ?_, spelled⟩
      cases gap with
      | nil => exact nofun
      | cons c gap =>
          have ends := endsBefore_blank previous blank []
          rwa [List.append_nil] at ends
  | @token before kind kinds gap spelled text blank parted spelling rest inductionHypothesis =>
      rcases inductionHypothesis with ⟨ends, spelled⟩
      refine ⟨fun previous isPrevious => ?_,
        Spelling.after_blank blank (.token spelling (ends kind rfl) spelled)⟩
      cases gap with
      | cons c gap => exact endsBefore_blank previous blank _
      | nil =>
          have apart : previous.needsGap kind = false :=
            Bool.eq_false_iff.mpr fun together => parted previous isPrevious together rfl
          rcases next_of_spelling spelling (ends kind rfl) with ⟨c, front, rfl, -, -⟩
          rintro next ⟨⟩
          rw [swallows_eq_needsGap previous spelling, apart]

/-! ## What comes after -/

theorem scan_after_blank {gap : List Char} (blank : Blank gap) (rest : List Char)
    (position : Nat) :
    Scan.ofChars position (gap ++ rest) = Scan.ofChars (position + byteLength gap) rest := by
  induction gap generalizing position with
  | nil => rfl
  | cons c gap inductionHypothesis =>
      rcases List.forall_mem_cons.mp blank with ⟨first, others⟩
      rw [List.cons_append, Scan.ofChars, if_pos first, inductionHypothesis others,
        Nat.add_assoc]
      rfl

theorem scan_after_token {kind : TokenKind} {spelled rest : List Char}
    (spelling : TokenSpelling kind spelled) (ends : EndsBefore kind rest) (position : Nat) :
    (Scan.ofChars position (spelled ++ rest)).error? =
      (Scan.ofChars (position + byteLength spelled) rest).error? := by
  rcases next_of_spelling spelling ends with ⟨c, front, rfl, noLayout, next⟩
  rw [List.cons_append, Scan.ofChars, noLayout]
  simp only [Bool.false_eq_true, if_false, next]

theorem TokenSpelling.ne_nil {kind : TokenKind} {spelled : List Char}
    (spelling : TokenSpelling kind spelled) : spelled ≠ [] := by
  have atEnd : EndsBefore kind [] := nofun
  rcases next_of_spelling spelling atEnd with ⟨c, front, rfl, -, -⟩
  exact List.cons_ne_nil c front

theorem LaidOut.eq_nil {before : Option TokenKind} {kinds : List TokenKind}
    (laidOut : LaidOut before kinds []) : kinds = [] := by
  generalize nothing : ([] : List Char) = text at laidOut
  cases laidOut with
  | done => rfl
  | token blank parted spelling rest =>
      rcases List.append_eq_nil_iff.mp nothing.symm with ⟨-, noText⟩
      exact absurd (List.append_eq_nil_iff.mp noText).1 spelling.ne_nil

/-- After tokens that are laid out the scan goes on as if a text began there, if the last of
them ends there. -/
theorem scan_after_laidOut {before : Option TokenKind} {kinds : List TokenKind}
    {front rest : List Char} (laidOut : LaidOut before kinds front)
    (ends : ∀ last ∈ kinds.getLast?, EndsBefore last rest) (position : Nat) :
    (Scan.ofChars position (front ++ rest)).error? =
      (Scan.ofChars (position + byteLength front) rest).error? := by
  induction laidOut generalizing position with
  | done blank => rw [scan_after_blank blank]
  | @token before kind kinds gap spelled text blank parted spelling others inductionHypothesis =>
      have endsHere : EndsBefore kind (text ++ rest) := by
        cases text with
        | nil =>
            cases others.eq_nil
            exact ends kind rfl
        | cons c text => exact others.spelling.1 kind rfl
      have endsLater : ∀ last ∈ kinds.getLast?, EndsBefore last rest := by
        intro last isLast
        apply ends
        cases kinds with
        | nil => cases isLast
        | cons next kinds => exact isLast
      rw [List.append_assoc, List.append_assoc, scan_after_blank blank,
        scan_after_token spelling endsHere, inductionHypothesis endsLater, byteLength_append,
        byteLength_append, Nat.add_assoc, Nat.add_assoc]

/-! ## Tokens that have run together -/

/-- A text that is one lexeme has one token at most. -/
theorem length_tokens_of_lexeme {c : Char} {rest : List Char} (noLayout : isLayout c = false)
    (whole : (Lexeme.next c rest).rest = []) (position : Nat) :
    (Scan.ofChars position (c :: rest)).tokens.length ≤ 1 := by
  rw [Scan.ofChars, noLayout]
  simp only [Bool.false_eq_true, if_false, whole]
  split
  · exact Nat.zero_le 1
  · rw [Scan.ofChars]
    exact Nat.le_refl 1

/-- Where a blank is needed and there is none, the two tokens make one lexeme. -/
theorem whole_of_needsGap {first second : TokenKind} {front back : List Char}
    (firstSpelling : TokenSpelling first front) (secondSpelling : TokenSpelling second back)
    (together : first.needsGap second = true) :
    ∃ c rest, front ++ back = c :: rest ∧ isLayout c = false ∧ (Lexeme.next c rest).rest = [] := by
  have ofWord {word : Keyword} (inAnyCase : front.map Char.toLower = word.spelling.toList)
      (continues : ∀ c ∈ back, isWordChar c = true) :
      ∃ c rest, front ++ back = c :: rest ∧ isLayout c = false ∧
        (Lexeme.next c rest).rest = [] := by
    cases front with
    | nil => cases word <;> cases inAnyCase
    | cons c letters =>
        rcases next_of_letter (letter_of_keyword inAnyCase) with ⟨noLayout, isWord⟩
        refine ⟨c, letters ++ back, rfl, noLayout, ?_⟩
        rw [isWord]
        exact List.dropWhile_eq_nil_iff.mpr
          (List.forall_mem_append.mpr ⟨wordChar_of_keyword inAnyCase, continues⟩)
  cases firstSpelling with
  | keyword word inAnyCase =>
      cases secondSpelling with
      | keyword next nextInAnyCase => exact ofWord inAnyCase (wordChar_of_keyword nextInAnyCase)
      | number nonempty numeral fits =>
          refine ofWord inAnyCase fun c member => ?_
          simp [isWordChar, isNumeric, numeral c member]
      | _ => cases together
  | number nonempty numeral fits =>
      cases secondSpelling with
      | number _ nextNumeral _ =>
          cases front with
          | nil => exact absurd rfl nonempty
          | cons c digits =>
              rcases next_of_digit (numeral c List.mem_cons_self) with ⟨noLayout, isNumeral⟩
              refine ⟨c, digits ++ back, rfl, noLayout, ?_⟩
              rw [isNumeral]
              exact List.dropWhile_eq_nil_iff.mpr
                (List.forall_mem_append.mpr ⟨numeral, nextNumeral⟩)
      | _ => cases together
  | bang =>
      cases secondSpelling with
      | equal => exact ⟨'!', ['='], rfl, rfl, rfl⟩
      | _ => cases together
  | _ => cases together

/-- The tokens of these kinds, and no others, are found in the text. -/
def Shows (text : String) (kinds : List TokenKind) : Prop :=
  ∃ tokens, tokenize text = .ok tokens ∧ tokens.map Token.kind = kinds

theorem shows_of_laidOut {kinds : List TokenKind} {text : String}
    (laidOut : LaidOut none kinds text.toList) : Shows text kinds := by
  have found := tokenize_of_spelling laidOut.spelling.2
  rwa [String.ofList_toList] at found

theorem not_shows_of_needsGap {first second : TokenKind} {front back : List Char}
    (firstSpelling : TokenSpelling first front) (secondSpelling : TokenSpelling second back)
    (together : first.needsGap second = true) :
    ¬ Shows (String.ofList (front ++ back)) [first, second] := by
  rintro ⟨tokens, success, kinds⟩
  rcases whole_of_needsGap firstSpelling secondSpelling together with
    ⟨c, rest, text, noLayout, whole⟩
  rw [tokenize, Scan.ofText, String.toList_ofList, text, Scan.result] at success
  split at success
  · cases success
  · cases success
    have few := length_tokens_of_lexeme noLayout whole 0
    have two := congrArg List.length kinds
    rw [List.length_map] at two
    change _ = 2 at two
    omega

/-- Two tokens next to each other are found if no blank is needed between them. -/
theorem shows_adjacent_iff {first second : TokenKind} {front back : List Char}
    (firstSpelling : TokenSpelling first front) (secondSpelling : TokenSpelling second back) :
    Shows (String.ofList (front ++ back)) [first, second] ↔ first.needsGap second = false := by
  constructor
  · intro shows
    apply Bool.eq_false_iff.mpr
    intro together
    exact not_shows_of_needsGap firstSpelling secondSpelling together shows
  · intro apart
    have nothing : Blank [] := List.forall_mem_nil _
    have atStart : ∀ previous ∈ (none : Option TokenKind),
        previous.needsGap first = true → ([] : List Char) ≠ [] := by
      rintro previous ⟨⟩
    have parted : ∀ previous ∈ some first,
        previous.needsGap second = true → ([] : List Char) ≠ [] := by
      rintro previous ⟨⟩ together
      rw [apart] at together
      cases together
    have laidOut := LaidOut.token nothing atStart firstSpelling
      (.token nothing parted secondSpelling (.done nothing))
    rw [List.append_nil] at laidOut
    apply shows_of_laidOut
    rw [String.toList_ofList]
    exact laidOut

/-! ## Reading -/

/-- What comes of reading a text: a query, or what is said of the error. -/
def reply (text : String) : Except String Query :=
  (read text).mapError fun error => Error.message (.malformed error)

/-- Nothing but the fault is said of an error. -/
theorem reply_eq {text : String} {tokens : List Token} (success : tokenize text = .ok tokens) :
    reply text = ((ofTokens tokens).mapError SyntaxError.fault).mapError fun fault =>
      "syntax error: " ++ fault.message := by
  rw [reply, read, success]
  change (ofTokens tokens).mapError _ = _
  cases ofTokens tokens <;> rfl

theorem reply_of_shows {kinds : List TokenKind} {first second : String}
    (firstShows : Shows first kinds) (secondShows : Shows second kinds) :
    reply first = reply second := by
  rcases firstShows with ⟨firstTokens, firstTokenized, firstKinds⟩
  rcases secondShows with ⟨secondTokens, secondTokenized, secondKinds⟩
  rw [reply_eq firstTokenized, reply_eq secondTokenized,
    ofTokens_congr (firstKinds.trans secondKinds.symm)]

/-- Layout and case do not matter.  Laid out in whatever way, the tokens are found, and
the same query is read or the same is said of the error.  A blank is needed exactly
between the tokens that would run together. -/
theorem layout_immaterial :
    (∀ kinds text, LaidOut none kinds text.toList → Shows text kinds) ∧
    (∀ kinds first second, LaidOut none kinds first.toList → LaidOut none kinds second.toList →
      reply first = reply second) ∧
    (∀ first second front back, TokenSpelling first front → TokenSpelling second back →
      (Shows (String.ofList (front ++ back)) [first, second] ↔ first.needsGap second = false)) := by
  refine ⟨?_, ?_, ?_⟩
  · intro kinds text laidOut
    exact shows_of_laidOut laidOut
  · intro kinds first second firstLaidOut secondLaidOut
    exact reply_of_shows (shows_of_laidOut firstLaidOut) (shows_of_laidOut secondLaidOut)
  · intro first second front back firstSpelling secondSpelling
    exact shows_adjacent_iff firstSpelling secondSpelling

/-- A page size, written without a blank and with many; a word and a numeral need one. -/
theorem layout_immaterial_limit :
    Shows "limit=10" [.keyword .limit, .equal, .number 10] ∧
    reply "limit=10" = reply " LimiT =\t0010" ∧
    ¬ Shows "limit10" [.keyword .limit, .number 10] := by
  have nothing : Blank [] := List.forall_mem_nil _
  have space : Blank [' '] := List.forall_mem_singleton.mpr rfl
  have tab : Blank ['\t'] := List.forall_mem_singleton.mpr rfl
  have apart {before : Option TokenKind} {kind : TokenKind} {gap : List Char}
      (fits : ∀ previous ∈ before, previous.needsGap kind = false) :
      ∀ previous ∈ before, previous.needsGap kind = true → gap ≠ [] := by
    intro previous isPrevious together
    rw [fits previous isPrevious] at together
    cases together
  have ten {digits : List Char} (nonempty : digits ≠ [])
      (numeral : digits.all Char.isDigit = true) (isTen : decimalValue digits = 10) :
      TokenSpelling (.number 10) digits := by
    have fits : decimalValue digits ≤ maxNumber := by
      rw [isTen]
      decide
    have spelled := TokenSpelling.number nonempty (List.all_eq_true.mp numeral) fits
    rwa [isTen] at spelled
  have shortTen : TokenSpelling (.number 10) ['1', '0'] := ten (List.cons_ne_nil _ _) rfl rfl
  have longTen : TokenSpelling (.number 10) ['0', '0', '1', '0'] :=
    ten (List.cons_ne_nil _ _) rfl rfl
  have limit : TokenSpelling (.keyword .limit) ['l', 'i', 'm', 'i', 't'] := .keyword .limit rfl
  have mixed : TokenSpelling (.keyword .limit) ['L', 'i', 'm', 'i', 'T'] := .keyword .limit rfl
  have dense : LaidOut none [.keyword .limit, .equal, .number 10] "limit=10".toList :=
    .token nothing (apart (by decide)) limit (.token nothing (apart (by decide)) .equal
      (.token nothing (apart (by decide)) shortTen (.done nothing)))
  have loose : LaidOut none [.keyword .limit, .equal, .number 10] " LimiT =\t0010".toList :=
    .token space (apart (by decide)) mixed (.token space (apart (by decide)) .equal
      (.token tab (apart (by decide)) longTen (.done nothing)))
  rcases layout_immaterial with ⟨tokens, replies, needed⟩
  refine ⟨tokens _ _ dense, replies _ _ _ dense loose, fun shows => ?_⟩
  cases (needed _ _ _ _ limit shortTen).mp shows

end Query
end TestQuery
