import TestQuery.Proofs.Json.Grammar

namespace TestQuery
namespace Json

open Text

/-!
# What was taken

The converse of reading what the grammar allows: whatever is read as a string or a number was
spelled as the grammar says, and what was read is what the spelling means.
-/

/-! ## Characters -/

theorem layout_taken {input rest : List Char} (success : layout.run input = .ok ((), rest)) :
    ∃ gap, Gap gap ∧ input = gap ++ rest := by
  have isRest : input.dropWhile isLayout = rest :=
    congrArg Prod.snd (Except.ok.inj (success : Except.ok ((), input.dropWhile isLayout) = _))
  refine ⟨input.takeWhile isLayout, ?_, ?_⟩
  · exact List.all_eq_true.mp List.all_takeWhile
  · rw [← isRest, List.takeWhile_append_dropWhile]

theorem expectChar_taken {α : Type} {accept : Char → Option α} {input rest : List Char} {result : α}
    (success : (expectChar accept).run input = .ok (result, rest)) :
    ∃ c, input = c :: rest ∧ accept c = some result := by
  cases input with
  | nil => cases success
  | cons c following =>
      rw [expectChar, Reader.run_symbol_cons] at success
      cases accepted : accept c with
      | none =>
          rw [accepted] at success
          cases success
      | some meaning =>
          rw [accepted] at success
          cases success
          exact ⟨c, rfl, accepted⟩

theorem anyChar_taken {input rest : List Char} {c : Char}
    (success : anyChar.run input = .ok (c, rest)) : input = c :: rest := by
  cases input with
  | nil => cases success
  | cons first following =>
      cases success
      rfl

theorem exactly_taken {wanted : Char} {input rest : List Char}
    (success : (exactly wanted).run input = .ok ((), rest)) : input = wanted :: rest := by
  rcases expectChar_taken success with ⟨c, rfl, accepted⟩
  split at accepted
  · rename_i same
    rw [same]
  · cases accepted

theorem word_taken {text input rest : List Char}
    (success : (word text).run input = .ok ((), rest)) : input = text ++ rest := by
  induction text generalizing input with
  | nil =>
      cases success
      rfl
  | cons c text inductionHypothesis =>
      rcases Reader.run_bind_eq_ok_iff.mp success with ⟨_, between, first, others⟩
      rw [exactly_taken first, inductionHypothesis others]
      rfl

theorem afterLayout_taken {α : Type} {accept : Char → Option α} {input rest : List Char}
    {result : α} (success : (afterLayout accept).run input = .ok (result, rest)) :
    ∃ gap c, Gap gap ∧ input = gap ++ c :: rest ∧ accept c = some result := by
  rcases Reader.run_bind_eq_ok_iff.mp success with ⟨_, between, skipped, taken⟩
  rcases layout_taken skipped with ⟨gap, blank, rfl⟩
  rcases expectChar_taken taken with ⟨c, rfl, accepted⟩
  exact ⟨gap, c, blank, rfl, accepted⟩

/-- The character that has to be there was there. -/
theorem mark_taken {wanted : Char} {input rest : List Char} {result : Unit}
    (success : (afterLayout fun c => if c = wanted then some () else none).run input =
      .ok (result, rest)) : ∃ gap, Gap gap ∧ input = gap ++ wanted :: rest := by
  rcases afterLayout_taken success with ⟨gap, c, blank, rfl, accepted⟩
  split at accepted
  · rename_i same
    rw [same]
    exact ⟨gap, blank, rfl⟩
  · cases accepted

/-! ## Strings -/

theorem hexUnit_taken {input rest : List Char} {number : Nat}
    (success : hexUnit.run input = .ok (number, rest)) :
    ∃ digits, FourDigits digits number ∧ input = digits ++ rest := by
  simp only [hexUnit] at success
  split at success
  · cases success
  · split at success
    · split at success
      · rename_i first second third fourth
        cases success
        exact ⟨_, .mk first second third fourth, rfl⟩
      · cases success
    · cases success

theorem shortEscape?_taken {letter meaning : Char} (found : shortEscape? letter = some meaning) :
    (letter, meaning) ∈ shortEscapes := by
  unfold shortEscape? at found
  split at found
  · rename_i itself
    cases found
    rcases itself with rfl | rfl | rfl <;> simp [shortEscapes]
  · repeat
      split at found
      · rename_i same
        cases found
        simp [shortEscapes, same]
    cases found

theorem toNat_ofNat {number : Nat} (valid : number.isValidChar) :
    (Char.ofNat number).toNat = number := by
  rw [Char.ofNat, dif_pos valid]
  rfl

theorem fourDigits_lt {digits : List Char} {number : Nat} (isNumber : FourDigits digits number) :
    number < 0x10000 := by
  cases isNumber with
  | mk first second third fourth =>
      have firstSmall := hexValue?_lt first
      have secondSmall := hexValue?_lt second
      have thirdSmall := hexValue?_lt third
      have fourthSmall := hexValue?_lt fourth
      omega

/-- The two surrogates that were read are those of the character. -/
theorem lowerHalf_taken {unit : Nat} (isHigh : isHighSurrogate unit = true)
    {input rest : List Char} {c : Char} (success : (lowerHalf unit).run input = .ok (c, rest)) :
    ∃ low, 0x10000 ≤ c.toNat ∧ unit = 0xD800 + (c.toNat - 0x10000) / 0x400 ∧
      FourDigits low (0xDC00 + (c.toNat - 0x10000) % 0x400) ∧
      input = '\\' :: 'u' :: (low ++ rest) := by
  rcases Reader.run_bind_eq_ok_iff.mp success with ⟨_, afterBackslash, backslash, unitRead⟩
  rcases Reader.run_bind_eq_ok_iff.mp unitRead with ⟨_, afterLetter, letter, lowerRead⟩
  rcases Reader.run_bind_eq_ok_iff.mp lowerRead with ⟨lower, between, digits, decided⟩
  rcases hexUnit_taken digits with ⟨low, isLower, rfl⟩
  split at decided
  · rename_i isLow
    have done : (Char.ofNat (0x10000 + (unit - 0xD800) * 0x400 + (lower - 0xDC00)), between) =
        (c, rest) := Except.ok.inj decided
    rcases Prod.mk.inj done with ⟨isChar, rfl⟩
    simp only [isLowSurrogate, isHighSurrogate, Bool.and_eq_true, decide_eq_true_eq] at isLow isHigh
    have number : c.toNat = 0x10000 + (unit - 0xD800) * 0x400 + (lower - 0xDC00) := by
      rw [← isChar]
      exact toNat_ofNat (.inr (by omega))
    have sameLower : 0xDC00 + (c.toNat - 0x10000) % 0x400 = lower := by omega
    refine ⟨low, by omega, by omega, ?_, ?_⟩
    · rw [sameLower]
      exact isLower
    · rw [exactly_taken backslash, exactly_taken letter]
  · cases decided

theorem escape_taken {input rest : List Char} {c : Char}
    (success : escape.run input = .ok (c, rest)) :
    ∃ spelled, Escape spelled c ∧ input = spelled ++ rest := by
  rcases Reader.run_bind_eq_ok_iff.mp success with ⟨letter, following, first, letterRead⟩
  rw [anyChar_taken first]
  split at letterRead
  · rename_i isUnit
    rcases Reader.run_bind_eq_ok_iff.mp letterRead with ⟨unit, _, digits, decided⟩
    rcases hexUnit_taken digits with ⟨spelled, isNumber, rfl⟩
    rw [isUnit]
    split at decided
    · cases decided
    · rename_i notLow
      split at decided
      · rename_i isHigh
        rcases lowerHalf_taken isHigh decided with ⟨low, beyond, rfl, lower, rfl⟩
        refine ⟨'u' :: (spelled ++ ('\\' :: 'u' :: low)), .pair beyond isNumber lower, ?_⟩
        simp
      · rename_i notHigh
        cases decided
        have small := fourDigits_lt isNumber
        simp only [isLowSurrogate, isHighSurrogate, Bool.and_eq_true, decide_eq_true_eq]
          at notLow notHigh
        have number : (Char.ofNat unit).toNat = unit := toNat_ofNat (by omega)
        rw [← number] at isNumber
        exact ⟨'u' :: spelled, .unit isNumber, rfl⟩
  · split at letterRead
    · rename_i meant
      cases letterRead
      exact ⟨[letter], .short (shortEscape?_taken meant), rfl⟩
    · cases letterRead

theorem stringRun_taken {input rest content : List Char}
    (success : stringRun escape input = .ok (content, rest)) :
    ∃ body, StringBody Escape body content ∧ input = body ++ rest := by
  fun_induction stringRun escape input generalizing content rest with
  | case1 => cases success
  | case2 following =>
      cases success
      exact ⟨['"'], .close, rfl⟩
  | case3 => cases success
  | case4 => cases success
  | case5 following meaning behind escaped others left recursion _ inductionHypothesis =>
      cases success
      rcases escape_taken escaped with ⟨spelled, isEscape, rfl⟩
      rcases inductionHypothesis recursion with ⟨body, isBody, rfl⟩
      refine ⟨'\\' :: (spelled ++ body), .escaped isEscape isBody, ?_⟩
      simp
  | case6 => cases success
  | case7 => cases success
  | case8 c following noQuote noBackslash noControl others left recursion inductionHypothesis =>
      cases success
      rcases inductionHypothesis recursion with ⟨body, isBody, rfl⟩
      exact ⟨c :: body, .plain noQuote noBackslash (Nat.not_lt.mp noControl) isBody, rfl⟩

/-- What was read after the opening quote is the rest of a string. -/
theorem string_taken {input rest : List Char} {text : String}
    (success : Leaves.exact.string.run input = .ok (text, rest)) :
    ∃ body, QuotedText ('"' :: body) text ∧ input = body ++ rest := by
  rcases Reader.run_bind_eq_ok_iff.mp success with ⟨content, _, read, done⟩
  cases done
  rcases stringRun_taken read with ⟨body, isBody, rfl⟩
  exact ⟨body, .mk isBody, rfl⟩

/-! ## Numbers -/

theorem someDigits_taken {input rest digits : List Char}
    (success : someDigits.run input = .ok (digits, rest)) :
    IsDigits digits ∧ input = digits ++ rest := by
  rcases Reader.run_bind_eq_ok_iff.mp success with ⟨first, following, isFirst, othersRead⟩
  rcases expectChar_taken isFirst with ⟨c, rfl, accepted⟩
  split at accepted
  · rename_i isDigit
    cases accepted
    have done : (first :: following.takeWhile Char.isDigit, following.dropWhile Char.isDigit) =
        (digits, rest) := Except.ok.inj othersRead
    cases done
    refine ⟨⟨List.cons_ne_nil _ _, List.forall_mem_cons.mpr ⟨isDigit, ?_⟩⟩, ?_⟩
    · exact List.all_eq_true.mp List.all_takeWhile
    · rw [List.cons_append, List.takeWhile_append_dropWhile]
  · cases accepted

theorem wholeDigits_taken {input rest digits : List Char}
    (success : wholeDigits.run input = .ok (digits, rest)) :
    IsDigits digits ∧ (digits.head? = some '0' → digits = ['0']) ∧ input = digits ++ rest := by
  rcases Reader.run_bind_eq_ok_iff.mp success with ⟨found, following, isFound, decided⟩
  rcases someDigits_taken isFound with ⟨isDigits, rfl⟩
  split at decided
  · cases decided
  · rename_i alone
    cases decided
    refine ⟨isDigits, ?_, rfl⟩
    intro zero
    cases digits with
    | nil => cases zero
    | cons first others =>
        cases zero
        cases others with
        | nil => rfl
        | cons second others => exact absurd rfl (alone second others)

theorem fraction_taken {input rest : List Char} {result : Option (List Char)}
    (success : fraction.run input = .ok (result, rest)) :
    ∃ text, FractionOf text result ∧ input = text ++ rest := by
  rw [fraction, Reader.run_bind_of_ok (Reader.run_peek _)] at success
  split at success
  · rename_i isPoint
    rcases Reader.run_bind_eq_ok_iff.mp success with ⟨point, following, first, success⟩
    rcases Reader.run_bind_eq_ok_iff.mp success with ⟨digits, _, isDigits, done⟩
    rcases someDigits_taken isDigits with ⟨areDigits, rfl⟩
    rw [anyChar_taken first] at isPoint ⊢
    cases isPoint
    cases done
    exact ⟨'.' :: digits, .point areDigits, rfl⟩
  · cases success
    exact ⟨[], .absent, rfl⟩

theorem exponentSign_taken {input rest : List Char} {negative : Bool}
    (success : exponentSign.run input = .ok (negative, rest)) :
    ∃ sign, SignOf sign negative ∧ input = sign ++ rest := by
  rw [exponentSign, Reader.run_bind_of_ok (Reader.run_peek _)] at success
  split at success
  · rename_i isSign
    rcases Reader.run_bind_eq_ok_iff.mp success with ⟨sign, _, first, done⟩
    rw [anyChar_taken first] at isSign ⊢
    cases done
    rcases isSign with isMinus | isPlus
    · cases isMinus
      exact ⟨['-'], .minus, rfl⟩
    · cases isPlus
      exact ⟨['+'], .plus, rfl⟩
  · cases success
    exact ⟨[], .absent, rfl⟩

theorem exponent_taken {input rest : List Char} {result : Option (Bool × List Char)}
    (success : exponent.run input = .ok (result, rest)) :
    ∃ text, ExponentOf text result ∧ input = text ++ rest := by
  rw [exponent, Reader.run_bind_of_ok (Reader.run_peek _)] at success
  split at success
  · rename_i isMark
    rcases Reader.run_bind_eq_ok_iff.mp success with ⟨letter, afterLetter, first, success⟩
    rcases Reader.run_bind_eq_ok_iff.mp success with ⟨negative, afterSign, signed, success⟩
    rcases Reader.run_bind_eq_ok_iff.mp success with ⟨digits, _, isDigits, done⟩
    rcases someDigits_taken isDigits with ⟨areDigits, rfl⟩
    rcases exponentSign_taken signed with ⟨sign, isSign, rfl⟩
    rw [anyChar_taken first] at isMark ⊢
    cases done
    have isLetter : letter = 'e' ∨ letter = 'E' := isMark.imp Option.some.inj Option.some.inj
    refine ⟨letter :: (sign ++ digits), .mark isLetter isSign areDigits, ?_⟩
    simp
  · cases success
    exact ⟨[], .absent, rfl⟩

theorem numeral_taken {negative : Bool} {input rest : List Char} {result : Numeral}
    (success : (numeral negative).run input = .ok (result, rest)) :
    ∃ text, NumeralOf negative text result ∧ input = text ++ rest := by
  rcases Reader.run_bind_eq_ok_iff.mp success with ⟨whole, afterWhole, isWhole, success⟩
  rcases Reader.run_bind_eq_ok_iff.mp success with ⟨fraction, afterFraction, isFraction, success⟩
  rcases Reader.run_bind_eq_ok_iff.mp success with ⟨exponent, _, isExponent, done⟩
  cases done
  rcases exponent_taken isExponent with ⟨exponentText, exponentOf, rfl⟩
  rcases fraction_taken isFraction with ⟨fractionText, fractionOf, rfl⟩
  rcases wholeDigits_taken isWhole with ⟨areDigits, noZero, rfl⟩
  refine ⟨_, .mk areDigits noZero fractionOf exponentOf, ?_⟩
  simp

/-- A number that was read has the value of its parts. -/
theorem number_taken {negative : Bool} {input rest : List Char} {value : Json}
    (success : (number negative).run input = .ok (value, rest)) :
    ∃ text numeral, NumeralOf negative text numeral ∧ numeral.value? = some value ∧
      input = text ++ rest := by
  rcases Reader.run_bind_eq_ok_iff.mp success with ⟨numeral, following, isNumeral, decided⟩
  rcases numeral_taken isNumeral with ⟨text, numeralOf, rfl⟩
  split at decided
  · rename_i held
    cases decided
    exact ⟨text, numeral, numeralOf, held, rfl⟩
  · cases decided

end Json
end TestQuery
