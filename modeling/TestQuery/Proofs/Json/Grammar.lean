import TestQuery.Json.Reading
import TestQuery.Json.Writer
import TestQuery.Proofs.Reader
import TestQuery.Proofs.Uuid

namespace TestQuery
namespace Json

open Text

/-!
# The grammar of JSON texts

What a JSON text looks like, said apart from how it is read: layout, strings with the
characters that they mean, numbers, and values that are nested to any depth.  A string that is
asked for means what it says, so surrogates come in pairs in it; where a value is skipped, any
four digits may follow `\u`.

A string or a number that the grammar allows is read, exactly up to its end.
-/

/-! ## Layout -/

/-- Blanks, tabs and line ends, or nothing. -/
def Gap (text : List Char) : Prop :=
  ∀ c ∈ text, isLayout c = true

theorem gap_nil : Gap [] :=
  List.forall_mem_nil _

/-- Only layout may follow a value. -/
theorem closing_eq_ok_iff {text : List Char} : closing text = .ok () ↔ Gap text := by
  rw [closing]
  split
  · rename_i blank
    exact ⟨fun _ => List.all_eq_true.mp blank, fun _ => rfl⟩
  · rename_i notBlank
    exact ⟨nofun, fun blank => absurd (List.all_eq_true.mpr blank) notBlank⟩

theorem run_layout {gap : List Char} (blank : Gap gap) {c : Char} (solid : isLayout c = false)
    (rest : List Char) : layout.run (gap ++ c :: rest) = .ok ((), c :: rest) := by
  have dropped : (gap ++ c :: rest).dropWhile isLayout = c :: rest := by
    rw [List.dropWhile_append_of_pos blank, List.dropWhile_cons_of_neg (by rw [solid]; nofun)]
  change Except.ok ((), (gap ++ c :: rest).dropWhile isLayout) = _
  rw [dropped]

theorem takes_expectChar {α : Type} {accept : Char → Option α} {c : Char} {result : α}
    (accepted : accept c = some result) : (expectChar accept).toReader.Takes [c] result := by
  apply Reader.takes_symbol
  rw [accepted]

theorem takes_anyChar (c : Char) : anyChar.toReader.Takes [c] c :=
  Reader.takes_symbol rfl _

theorem takes_exactly (c : Char) : (exactly c).toReader.Takes [c] () :=
  takes_expectChar (if_pos rfl)

theorem takes_afterLayout {α : Type} {accept : Char → Option α} {gap : List Char} (blank : Gap gap)
    {c : Char} (solid : isLayout c = false) {result : α} (accepted : accept c = some result) :
    (afterLayout accept).toReader.Takes (gap ++ [c]) result := by
  intro rest
  rw [List.append_assoc]
  change (layout >>= fun _ => (expectChar accept).toReader).run (gap ++ c :: rest) = _
  rw [Reader.run_bind_of_ok (run_layout blank solid rest)]
  exact takes_expectChar accepted rest

/-! ## Strings -/

/-- The letters that stand for one character after a backslash. -/
def shortEscapes : List (Char × Char) :=
  [('"', '"'), ('\\', '\\'), ('/', '/'), ('b', '\x08'), ('f', '\x0c'), ('n', '\n'), ('r', '\r'),
    ('t', '\t')]

/-- Four hexadecimal digits and their value. -/
inductive FourDigits : List Char → Nat → Prop where
  | mk {a b c d : Char} {w x y z : Nat} (first : hexValue? a = some w)
      (second : hexValue? b = some x) (third : hexValue? c = some y)
      (fourth : hexValue? d = some z) :
      FourDigits [a, b, c, d] (((w * 16 + x) * 16 + y) * 16 + z)

/-- What may follow a backslash, and the character that is meant: a letter for it, its number,
or the two surrogates of a number with more than four digits. -/
inductive Escape : List Char → Char → Prop where
  | short {letter meaning : Char} (listed : (letter, meaning) ∈ shortEscapes) :
      Escape [letter] meaning
  | unit {digits : List Char} {c : Char} (number : FourDigits digits c.toNat) :
      Escape ('u' :: digits) c
  | pair {high low : List Char} {c : Char} (beyond : 0x10000 ≤ c.toNat)
      (upper : FourDigits high (0xD800 + (c.toNat - 0x10000) / 0x400))
      (lower : FourDigits low (0xDC00 + (c.toNat - 0x10000) % 0x400)) :
      Escape ('u' :: (high ++ ('\\' :: 'u' :: low))) c

/-- What may follow a backslash in a string that is skipped. -/
inductive LooseEscape : List Char → Char → Prop where
  | short {letter meaning : Char} (listed : (letter, meaning) ∈ shortEscapes) :
      LooseEscape [letter] meaning
  | unit {digits : List Char} {number : Nat} (isNumber : FourDigits digits number) :
      LooseEscape ('u' :: digits) (Char.ofNat number)

/-- The rest of a string after its opening quote, and the characters of the string. -/
inductive StringBody (escapes : List Char → Char → Prop) : List Char → List Char → Prop where
  | close : StringBody escapes ['"'] []
  | plain {c : Char} {text content : List Char} (noQuote : c ≠ '"') (noBackslash : c ≠ '\\')
      (noControl : 0x20 ≤ c.toNat) (others : StringBody escapes text content) :
      StringBody escapes (c :: text) (c :: content)
  | escaped {spelled text content : List Char} {c : Char} (escape : escapes spelled c)
      (others : StringBody escapes text content) :
      StringBody escapes ('\\' :: (spelled ++ text)) (c :: content)

inductive QuotedText : List Char → String → Prop where
  | mk {body content : List Char} (isBody : StringBody Escape body content) :
      QuotedText ('"' :: body) (String.ofList content)

theorem takes_hexUnit {digits : List Char} {number : Nat} (isNumber : FourDigits digits number) :
    hexUnit.Takes digits number := by
  intro rest
  cases isNumber with
  | @mk a b c d w x y z first second third fourth =>
      have enough : ¬ byteLength [a, b, c, d] < 4 := by
        have sizeA := a.utf8Size_pos
        have sizeB := b.utf8Size_pos
        have sizeC := c.utf8Size_pos
        have sizeD := d.utf8Size_pos
        simp only [byteLength, List.foldr]
        omega
      change (if byteLength [a, b, c, d] < 4 then _ else _) = _
      rw [if_neg enough]
      simp only [first, second, third, fourth]
      rfl

theorem shortEscape?_eq {letter meaning : Char} (listed : (letter, meaning) ∈ shortEscapes) :
    letter ≠ 'u' ∧ shortEscape? letter = some meaning := by
  simp only [shortEscapes, List.mem_cons, Prod.mk.injEq, List.not_mem_nil, or_false] at listed
  rcases listed with ⟨rfl, rfl⟩ | ⟨rfl, rfl⟩ | ⟨rfl, rfl⟩ | ⟨rfl, rfl⟩ | ⟨rfl, rfl⟩ | ⟨rfl, rfl⟩ |
    ⟨rfl, rfl⟩ | ⟨rfl, rfl⟩ <;> exact ⟨by decide, rfl⟩

/-- The number of a character is not that of a surrogate. -/
theorem no_surrogate (c : Char) :
    isLowSurrogate c.toNat = false ∧ isHighSurrogate c.toNat = false := by
  have valid : c.toNat < 0xD800 ∨ 0xDFFF < c.toNat ∧ c.toNat < 0x110000 := c.valid
  simp only [isLowSurrogate, isHighSurrogate, Bool.and_eq_false_iff, decide_eq_false_iff_not]
  omega

/-- The two surrogates of a character tell its number. -/
theorem takes_lowerHalf {low : List Char} {c : Char} (beyond : 0x10000 ≤ c.toNat)
    (lower : FourDigits low (0xDC00 + (c.toNat - 0x10000) % 0x400)) :
    (lowerHalf (0xD800 + (c.toNat - 0x10000) / 0x400)).Takes ('\\' :: 'u' :: low) c := by
  have isLow : isLowSurrogate (0xDC00 + (c.toNat - 0x10000) % 0x400) = true := by
    simp only [isLowSurrogate, Bool.and_eq_true, decide_eq_true_eq]
    omega
  have together : 0x10000 + (0xD800 + (c.toNat - 0x10000) / 0x400 - 0xD800) * 0x400 +
      (0xDC00 + (c.toNat - 0x10000) % 0x400 - 0xDC00) = c.toNat := by
    omega
  apply (takes_exactly '\\').bind
  apply (takes_exactly 'u').bind
  apply (takes_hexUnit lower).bind_pure
  rw [if_pos isLow, together, Char.ofNat_toNat]

theorem takes_escape {spelled : List Char} {c : Char} (isEscape : Escape spelled c) :
    escape.Takes spelled c := by
  cases isEscape with
  | @short letter _ listed =>
      rcases shortEscape?_eq listed with ⟨noUnit, meaning⟩
      apply (takes_anyChar letter).bind_pure
      rw [if_neg noUnit, meaning]
  | @unit digits _ number =>
      rcases no_surrogate c with ⟨notLow, notHigh⟩
      apply (takes_anyChar 'u').bind
      apply (takes_hexUnit number).bind_pure
      rw [if_neg (Bool.eq_false_iff.mp notLow), if_neg (Bool.eq_false_iff.mp notHigh),
        Char.ofNat_toNat]
  | @pair high low _ beyond upper lower =>
      have valid : c.toNat < 0xD800 ∨ 0xDFFF < c.toNat ∧ c.toNat < 0x110000 := c.valid
      have notLow : ¬ isLowSurrogate (0xD800 + (c.toNat - 0x10000) / 0x400) = true := by
        simp only [isLowSurrogate, Bool.and_eq_true, decide_eq_true_eq]
        omega
      have isHigh : isHighSurrogate (0xD800 + (c.toNat - 0x10000) / 0x400) = true := by
        simp only [isHighSurrogate, Bool.and_eq_true, decide_eq_true_eq]
        omega
      apply (takes_anyChar 'u').bind
      apply (takes_hexUnit upper).bind
      rw [if_neg notLow, if_pos isHigh]
      exact takes_lowerHalf beyond lower

theorem takes_looseEscape {spelled : List Char} {c : Char} (isEscape : LooseEscape spelled c) :
    looseEscape.Takes spelled c := by
  cases isEscape with
  | @short letter _ listed =>
      rcases shortEscape?_eq listed with ⟨noUnit, meaning⟩
      apply (takes_anyChar letter).bind_pure
      rw [if_neg noUnit, meaning]
  | unit isNumber => exact (takes_anyChar 'u').bind ((takes_hexUnit isNumber).bind_pure rfl)

/-- A string is read where its escapes are. -/
theorem takes_stringBody {escapes : List Char → Char → Prop} {escape : TextReader Char}
    (takes : ∀ spelled c, escapes spelled c → escape.Takes spelled c) {text content : List Char}
    (isBody : StringBody escapes text content) : (stringBody escape).Takes text content := by
  intro rest
  change stringRun escape (text ++ rest) = _
  induction isBody with
  | close =>
      rw [List.singleton_append, stringRun, if_pos rfl]
  | plain noQuote noBackslash noControl others inductionHypothesis =>
      rw [List.cons_append, stringRun, if_neg noQuote, if_neg noBackslash,
        if_neg (Nat.not_lt.mpr noControl), inductionHypothesis]
  | @escaped spelled text content c isEscape others inductionHypothesis =>
      rw [List.cons_append, List.append_assoc, stringRun, if_neg (by decide), if_pos rfl]
      have meant := takes spelled c isEscape (text ++ rest)
      split
      · rename_i failure
        cases meant.symm.trans failure
      · rename_i success
        cases meant.symm.trans success
        rw [inductionHypothesis]

theorem takes_string {leaves : Leaves} {escapes : List Char → Char → Prop}
    (takes : ∀ spelled c, escapes spelled c → leaves.escaped.Takes spelled c)
    {text content : List Char} (isBody : StringBody escapes text content) :
    leaves.string.Takes text (String.ofList content) :=
  (takes_stringBody takes isBody).bind_pure rfl

/-! ## Strings that are written -/

/-- A character is escaped if it has to be. -/
theorem stringBody_escapedChar (c : Char) {text content : List Char}
    (others : StringBody Escape text content) :
    StringBody Escape (escapedChar c ++ text) (c :: content) := by
  have short {letter : Char} (listed : (letter, c) ∈ shortEscapes) :
      StringBody Escape ('\\' :: letter :: text) (c :: content) :=
    .escaped (.short listed) others
  unfold escapedChar
  by_cases isQuote : c = '"'
  · subst isQuote
    exact short (by simp [shortEscapes])
  by_cases isBackslash : c = '\\'
  · subst isBackslash
    exact short (by simp [shortEscapes])
  by_cases isBackspace : c = '\x08'
  · subst isBackspace
    exact short (by simp [shortEscapes])
  by_cases isFeed : c = '\x0c'
  · subst isFeed
    exact short (by simp [shortEscapes])
  by_cases isLine : c = '\n'
  · subst isLine
    exact short (by simp [shortEscapes])
  by_cases isReturn : c = '\r'
  · subst isReturn
    exact short (by simp [shortEscapes])
  by_cases isTab : c = '\t'
  · subst isTab
    exact short (by simp [shortEscapes])
  rw [if_neg isQuote, if_neg isBackslash, if_neg isBackspace, if_neg isFeed, if_neg isLine,
    if_neg isReturn, if_neg isTab]
  by_cases isControl : c.toNat < 0x20
  · rw [if_pos isControl]
    have digits : FourDigits ['0', '0', hexDigit (c.toNat / 16), hexDigit (c.toNat % 16)]
        (((0 * 16 + 0) * 16 + c.toNat / 16) * 16 + c.toNat % 16) :=
      .mk rfl rfl (hexValue?_hexDigit (by omega)) (hexValue?_hexDigit (by omega))
    have number : ((0 * 16 + 0) * 16 + c.toNat / 16) * 16 + c.toNat % 16 = c.toNat := by omega
    rw [number] at digits
    exact .escaped (.unit digits) others
  · rw [if_neg isControl]
    exact .plain isQuote isBackslash (Nat.not_lt.mp isControl) others

/-- What is written of a string spells it. -/
theorem quotedText_writtenString (text : String) : QuotedText (writtenString text).toList text := by
  have body (content : List Char) :
      StringBody Escape (content.flatMap escapedChar ++ ['"']) content := by
    induction content with
    | nil => exact .close
    | cons c content inductionHypothesis =>
        rw [List.flatMap_cons, List.append_assoc]
        exact stringBody_escapedChar c inductionHypothesis
  rw [writtenString, String.toList_ofList]
  have quoted := QuotedText.mk (body text.toList)
  rwa [String.ofList_toList] at quoted

/-! ## Numbers -/

def IsDigits (text : List Char) : Prop :=
  text ≠ [] ∧ ∀ c ∈ text, c.isDigit = true

/-- The fraction of a number, which may be absent, and its digits. -/
inductive FractionOf : List Char → Option (List Char) → Prop where
  | absent : FractionOf [] none
  | point {digits : List Char} (isDigits : IsDigits digits) :
      FractionOf ('.' :: digits) (some digits)

/-- The sign of an exponent: is it a minus? -/
inductive SignOf : List Char → Bool → Prop where
  | absent : SignOf [] false
  | plus : SignOf ['+'] false
  | minus : SignOf ['-'] true

/-- The exponent of a number, which may be absent, its sign and its digits. -/
inductive ExponentOf : List Char → Option (Bool × List Char) → Prop where
  | absent : ExponentOf [] none
  | mark {letter : Char} {sign digits : List Char} {negative : Bool}
      (isLetter : letter = 'e' ∨ letter = 'E') (isSign : SignOf sign negative)
      (isDigits : IsDigits digits) :
      ExponentOf (letter :: (sign ++ digits)) (some (negative, digits))

/-- A number without its sign, and its parts.  A leading zero stands alone. -/
inductive NumeralOf (negative : Bool) : List Char → Numeral → Prop where
  | mk {whole fractionText exponentText : List Char} {fraction : Option (List Char)}
      {exponent : Option (Bool × List Char)} (isWhole : IsDigits whole)
      (noZero : whole.head? = some '0' → whole = ['0'])
      (isFraction : FractionOf fractionText fraction)
      (isExponent : ExponentOf exponentText exponent) :
      NumeralOf negative (whole ++ (fractionText ++ exponentText))
        ⟨negative, whole, fraction, exponent⟩

def NumeralText (text : List Char) : Prop :=
  ∃ numeral, NumeralOf false text numeral

/-- A number has its parts behind a sign too. -/
theorem NumeralText.parts {text : List Char} (isNumeral : NumeralText text) (negative : Bool) :
    ∃ numeral, NumeralOf negative text numeral := by
  rcases isNumeral with ⟨_, ⟨isWhole, noZero, isFraction, isExponent⟩⟩
  exact ⟨_, .mk isWhole noZero isFraction isExponent⟩

/-- What can stand behind a value: layout, a comma, the end of an array or an object, or the
end of the text. -/
def EndsValue (rest : List Char) : Prop :=
  ∀ c ∈ rest.head?, isLayout c = true ∨ c = ',' ∨ c = ']' ∨ c = '\x7d'

def EndsDigits (rest : List Char) : Prop :=
  ∀ c ∈ rest.head?, c.isDigit = false

structure EndsNumber (rest : List Char) : Prop where
  digits : EndsDigits rest
  fraction : rest.head? ≠ some '.'
  exponent : rest.head? ≠ some 'e' ∧ rest.head? ≠ some 'E'

theorem EndsValue.endsNumber {rest : List Char} (ends : EndsValue rest) : EndsNumber rest := by
  cases rest with
  | nil => exact ⟨nofun, nofun, nofun, nofun⟩
  | cons c rest =>
      have mark := ends c rfl
      simp only [isLayout, Bool.or_eq_true, beq_iff_eq] at mark
      have apart {other : Char} (different : c ≠ other) : (c :: rest).head? ≠ some other :=
        fun same => different (Option.some.inj same)
      rcases mark with (((rfl | rfl) | rfl) | rfl) | rfl | rfl | rfl <;>
        exact ⟨by rintro _ ⟨⟩; rfl, apart (by decide), apart (by decide), apart (by decide)⟩

theorem run_someDigits {digits rest : List Char} (isDigits : IsDigits digits)
    (ends : EndsDigits rest) : someDigits.run (digits ++ rest) = .ok (digits, rest) := by
  rcases isDigits with ⟨nonempty, all⟩
  cases digits with
  | nil => exact absurd rfl nonempty
  | cons first others =>
      rcases List.forall_mem_cons.mp all with ⟨isDigit, areDigits⟩
      have taken : (others ++ rest).takeWhile Char.isDigit = others ∧
          (others ++ rest).dropWhile Char.isDigit = rest := by
        rw [List.takeWhile_append_of_pos areDigits, List.dropWhile_append_of_pos areDigits]
        cases rest with
        | nil => exact ⟨List.append_nil others, rfl⟩
        | cons c rest =>
            have noDigit : ¬ c.isDigit = true := by rw [ends c rfl]; nofun
            rw [List.takeWhile_cons_of_neg noDigit, List.dropWhile_cons_of_neg noDigit]
            exact ⟨List.append_nil others, rfl⟩
      change ((expectChar _).toReader >>= _).run ([first] ++ (others ++ rest)) = _
      have begun : (expectChar fun c => if c.isDigit then some c else none).toReader.Takes [first]
          first := takes_expectChar (if_pos isDigit)
      rw [Reader.run_bind_of_ok (begun (others ++ rest))]
      change Except.ok (first :: (others ++ rest).takeWhile Char.isDigit,
        (others ++ rest).dropWhile Char.isDigit) = _
      rw [taken.1, taken.2]

theorem run_wholeDigits {digits rest : List Char} (isDigits : IsDigits digits)
    (noZero : digits.head? = some '0' → digits = ['0']) (ends : EndsDigits rest) :
    wholeDigits.run (digits ++ rest) = .ok (digits, rest) := by
  change (someDigits.toReader >>= _).run (digits ++ rest) = _
  rw [Reader.run_bind_of_ok (run_someDigits isDigits ends)]
  split
  · rename_i second others
    cases noZero rfl
  · rfl

theorem run_fraction {text rest : List Char} {result : Option (List Char)}
    (isFraction : FractionOf text result) (ends : EndsDigits rest)
    (noPoint : rest.head? ≠ some '.') : fraction.run (text ++ rest) = .ok (result, rest) := by
  cases isFraction with
  | absent =>
      rw [fraction, Reader.run_bind_of_ok (Reader.run_peek _), List.nil_append, if_neg noPoint]
      rfl
  | @point digits isDigits =>
      rw [fraction, Reader.run_bind_of_ok (Reader.run_peek _), List.cons_append, List.head?_cons,
        if_pos rfl]
      change (anyChar.toReader >>= _).run (['.'] ++ (digits ++ rest)) = _
      rw [Reader.run_bind_of_ok (takes_anyChar '.' _),
        Reader.run_bind_of_ok (run_someDigits isDigits ends)]
      rfl

theorem run_exponentSign {sign digits : List Char} {negative : Bool} (isSign : SignOf sign negative)
    (isDigits : IsDigits digits) (rest : List Char) :
    exponentSign.run (sign ++ (digits ++ rest)) = .ok (negative, digits ++ rest) := by
  cases isSign with
  | absent =>
      rcases isDigits with ⟨nonempty, all⟩
      cases digits with
      | nil => exact absurd rfl nonempty
      | cons first others =>
          have isDigit := all first List.mem_cons_self
          have noSign : ¬ (some first = some '-' ∨ some first = some '+') := by
            rintro (same | same) <;> rw [Option.some.inj same] at isDigit <;> cases isDigit
          rw [exponentSign, Reader.run_bind_of_ok (Reader.run_peek _), List.nil_append,
            List.cons_append, List.head?_cons, if_neg noSign]
          rfl
  | plus => rfl
  | minus => rfl

theorem run_exponent {text rest : List Char} {result : Option (Bool × List Char)}
    (isExponent : ExponentOf text result) (ends : EndsNumber rest) :
    exponent.run (text ++ rest) = .ok (result, rest) := by
  cases isExponent with
  | absent =>
      rw [exponent, Reader.run_bind_of_ok (Reader.run_peek _), List.nil_append,
        if_neg (not_or.mpr ends.exponent)]
      rfl
  | @mark letter sign digits negative isLetter isSign isDigits =>
      have marked : some letter = some 'e' ∨ some letter = some 'E' := by
        rcases isLetter with rfl | rfl
        · exact .inl rfl
        · exact .inr rfl
      rw [exponent, Reader.run_bind_of_ok (Reader.run_peek _), List.cons_append, List.head?_cons,
        if_pos marked, List.append_assoc]
      change (anyChar.toReader >>= _).run ([letter] ++ (sign ++ (digits ++ rest))) = _
      rw [Reader.run_bind_of_ok (takes_anyChar letter _),
        Reader.run_bind_of_ok (run_exponentSign isSign isDigits rest),
        Reader.run_bind_of_ok (run_someDigits isDigits ends.digits)]
      rfl

theorem endsDigits_exponent {text rest : List Char} {result : Option (Bool × List Char)}
    (isExponent : ExponentOf text result) (ends : EndsNumber rest) :
    EndsDigits (text ++ rest) ∧ (text ++ rest).head? ≠ some '.' := by
  cases isExponent with
  | absent => exact ⟨ends.digits, ends.fraction⟩
  | mark isLetter isSign isDigits =>
      rcases isLetter with rfl | rfl <;> exact ⟨by rintro _ ⟨⟩; rfl, nofun⟩

theorem endsDigits_fraction {text rest : List Char} {result : Option (List Char)}
    (isFraction : FractionOf text result) (ends : EndsDigits rest) : EndsDigits (text ++ rest) := by
  cases isFraction with
  | absent => exact ends
  | point isDigits =>
      rintro _ ⟨⟩
      rfl

theorem run_numeral {negative : Bool} {text rest : List Char} {result : Numeral}
    (isNumeral : NumeralOf negative text result) (ends : EndsNumber rest) :
    (numeral negative).run (text ++ rest) = .ok (result, rest) := by
  cases isNumeral with
  | mk isWhole noZero isFraction isExponent =>
      rcases endsDigits_exponent isExponent ends with ⟨endsFraction, noPoint⟩
      have endsWhole := endsDigits_fraction isFraction endsFraction
      rw [List.append_assoc, List.append_assoc]
      change (wholeDigits.toReader >>= _).run _ = _
      rw [Reader.run_bind_of_ok (run_wholeDigits isWhole noZero endsWhole),
        Reader.run_bind_of_ok (run_fraction isFraction endsFraction noPoint),
        Reader.run_bind_of_ok (run_exponent isExponent ends)]
      rfl

/-- A number is read as the value of its parts. -/
theorem run_number {negative : Bool} {text rest : List Char} {numeral : Numeral} {value : Json}
    (parts : NumeralOf negative text numeral) (held : numeral.value? = some value)
    (ends : EndsNumber rest) : (number negative).run (text ++ rest) = .ok (value, rest) := by
  apply (Reader.run_bind_of_ok (run_numeral parts ends)).trans
  rw [held]
  rfl

theorem run_looseNumber {text rest : List Char} (isNumeral : NumeralText text)
    (ends : EndsNumber rest) (negative : Bool) :
    (looseNumber negative).run (text ++ rest) = .ok (.null, rest) := by
  rcases isNumeral.parts negative with ⟨result, parts⟩
  have success := run_numeral parts ends
  have reworded : ((numeral negative).mapError fun _ => TextFault.malformed).run (text ++ rest) =
      .ok (result, rest) := by
    change ((numeral negative).run (text ++ rest)).mapError _ = _
    rw [success]
    rfl
  exact Reader.run_bind_of_ok reworded

/-! ## Values -/

/-- The values that are words. -/
def constants : List (List Char) :=
  ["null".toList, "true".toList, "false".toList]

/-- The mark that opens an array, or an object, whose items have keys. -/
def opening : (keyed : Bool) → Char
  | false => '['
  | true => '\x7b'

/-- The mark that ends an array or an object. -/
def ending : (keyed : Bool) → Char
  | false => ']'
  | true => '\x7d'

/-- What a value is made of. -/
inductive Phrase where
  | value
  /-- An element of an array, or a member of an object, with the layout behind it. -/
  | item (keyed : Bool)
  /-- One item or more, with commas between them. -/
  | items (keyed : Bool)

/-- The texts of values of any kind and depth. -/
inductive Spelled : Phrase → List Char → Prop where
  | constant {text : List Char} (listed : text ∈ constants) : Spelled .value text
  | string {body content : List Char} (isBody : StringBody LooseEscape body content) :
      Spelled .value ('"' :: body)
  | number {text : List Char} (isNumeral : NumeralText text) : Spelled .value text
  | negative {text : List Char} (isNumeral : NumeralText text) : Spelled .value ('-' :: text)
  | empty (keyed : Bool) {gap : List Char} (blank : Gap gap) :
      Spelled .value (opening keyed :: (gap ++ [ending keyed]))
  | nested {keyed : Bool} {gap text : List Char} (blank : Gap gap)
      (items : Spelled (.items keyed) text) :
      Spelled .value (opening keyed :: (gap ++ (text ++ [ending keyed])))
  | element {text after : List Char} (value : Spelled .value text) (blank : Gap after) :
      Spelled (.item false) (text ++ after)
  | member {key content between before text after : List Char}
      (isKey : StringBody LooseEscape key content) (blankBetween : Gap between)
      (blankBefore : Gap before) (value : Spelled .value text) (blank : Gap after) :
      Spelled (.item true) ('"' :: (key ++ (between ++ ':' :: (before ++ (text ++ after)))))
  | last {keyed : Bool} {text : List Char} (item : Spelled (.item keyed) text) :
      Spelled (.items keyed) text
  | more {keyed : Bool} {text gap others : List Char} (item : Spelled (.item keyed) text)
      (blank : Gap gap) (items : Spelled (.items keyed) others) :
      Spelled (.items keyed) (text ++ ',' :: (gap ++ others))

/-- The text begins neither with layout nor with the end of an array or an object. -/
def Begins (text : List Char) : Prop :=
  ∃ c rest, text = c :: rest ∧ isLayout c = false ∧ ∀ keyed, c ≠ ending keyed

theorem begins_cons {c : Char} (solid : isLayout c = false) (noArray : c ≠ ']')
    (noObject : c ≠ '\x7d') (rest : List Char) : Begins (c :: rest) :=
  ⟨c, rest, rfl, solid, Bool.forall_bool.mpr ⟨noArray, noObject⟩⟩

theorem Begins.append {text : List Char} (begins : Begins text) (more : List Char) :
    Begins (text ++ more) := by
  rcases begins with ⟨c, rest, rfl, solid, noEnding⟩
  exact ⟨c, rest ++ more, rfl, solid, noEnding⟩

theorem ne_of_isDigit {c other : Char} (isDigit : c.isDigit = true)
    (noDigit : other.isDigit = false) : c ≠ other := by
  rintro rfl
  rw [isDigit] at noDigit
  cases noDigit

theorem begins_digit {c : Char} (isDigit : c.isDigit = true) (rest : List Char) :
    Begins (c :: rest) := by
  have apart {other : Char} (noDigit : other.isDigit = false) : c ≠ other :=
    ne_of_isDigit isDigit noDigit
  refine begins_cons ?_ (apart rfl) (apart rfl) rest
  simp only [isLayout, Bool.or_eq_false_iff, beq_eq_false_iff_ne]
  exact ⟨⟨⟨apart rfl, apart rfl⟩, apart rfl⟩, apart rfl⟩

theorem NumeralOf.first {negative : Bool} {text : List Char} {numeral : Numeral}
    (parts : NumeralOf negative text numeral) : ∃ c rest, text = c :: rest ∧ c.isDigit = true := by
  cases parts with
  | @mk whole fractionText exponentText fraction exponent isWhole noZero isFraction isExponent =>
      rcases isWhole with ⟨nonempty, all⟩
      cases whole with
      | nil => exact absurd rfl nonempty
      | cons c whole => exact ⟨c, _, rfl, all c List.mem_cons_self⟩

theorem NumeralText.first {text : List Char} (isNumeral : NumeralText text) :
    ∃ c rest, text = c :: rest ∧ c.isDigit = true := by
  rcases isNumeral.parts false with ⟨numeral, parts⟩
  exact parts.first

theorem Spelled.begins {phrase : Phrase} {text : List Char} (spelled : Spelled phrase text) :
    Begins text := by
  induction spelled with
  | constant listed =>
      simp only [constants, List.mem_cons, List.not_mem_nil, or_false] at listed
      rcases listed with rfl | rfl | rfl <;>
        exact begins_cons rfl (by decide) (by decide) _
  | string isBody => exact begins_cons rfl (by decide) (by decide) _
  | number isNumeral =>
      rcases isNumeral.first with ⟨c, rest, rfl, isDigit⟩
      exact begins_digit isDigit rest
  | negative isNumeral => exact begins_cons rfl (by decide) (by decide) _
  | empty keyed blank => cases keyed <;> exact begins_cons rfl (by decide) (by decide) _
  | @nested keyed gap text blank items =>
      cases keyed <;> exact begins_cons rfl (by decide) (by decide) _
  | element value blank inductionHypothesis => exact inductionHypothesis.append _
  | member => exact begins_cons rfl (by decide) (by decide) _
  | last item inductionHypothesis => exact inductionHypothesis
  | more item blank items inductionHypothesis => exact inductionHypothesis.append _

end Json
end TestQuery
