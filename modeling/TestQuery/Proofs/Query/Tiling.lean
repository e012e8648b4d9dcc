import TestQuery.Proofs.Query.Layout
import TestQuery.Proofs.Query.Placement

namespace TestQuery
namespace Query

open Text

/-!
# Where a text is cut

A scan gives tokens, and an error if it stops at one; each has a span.  The spans are
told by the bytes of the text, although the scan goes by its characters, some of which
take several bytes.  They lie in the text one after another, cut no character in two, and
leave out nothing but blanks; what a text has at the span of a token spells that token,
and no longer token begins there.

Reading adds no spans of its own: an error that has a place is at one of these.
-/

/-! ## Bytes -/

/-- What a text has at a span and what comes after the span, by the bytes of its UTF-8
form.  The span neither begins nor ends inside a character. -/
structure Shown (text : String) (span : Span) (inside after : List Char) : Prop where
  start : (⟨span.start⟩ : String.Pos.Raw).IsValid text
  stop : (⟨span.stop⟩ : String.Pos.Raw).IsValid text
  inside : text.toByteArray.extract span.start span.stop = inside.utf8Encode
  after : text.toByteArray.extract span.stop text.utf8ByteSize = after.utf8Encode

/-- The span of `inside` after `before`, the first of which stands at a position. -/
def spanAfter (position : Nat) (before inside : List Char) : Span :=
  ⟨position + byteLength before, position + byteLength before + byteLength inside⟩

theorem shown_of_append {text : String} {before inside after : List Char}
    (parts : text.toList = before ++ (inside ++ after)) :
    Shown text (spanAfter 0 before inside) inside after := by
  have whole : text = String.ofList before ++ (String.ofList inside ++ String.ofList after) := by
    rw [← String.ofList_append, ← String.ofList_append, ← parts, String.ofList_toList]
  have bytes : text.toByteArray = before.utf8Encode ++ (inside.utf8Encode ++ after.utf8Encode) := by
    rw [whole, String.toByteArray_append, String.toByteArray_append, String.toByteArray_ofList,
      String.toByteArray_ofList, String.toByteArray_ofList]
  have size : text.utf8ByteSize =
      before.utf8Encode.size + (inside.utf8Encode.size + after.utf8Encode.size) := by
    rw [← String.size_toByteArray, bytes, ByteArray.size_append, ByteArray.size_append]
  have valid (front : List Char) (back : String) (split : text = String.ofList front ++ back) :
      (⟨byteLength front⟩ : String.Pos.Raw).IsValid text := by
    have atEnd : (⟨byteLength front⟩ : String.Pos.Raw) = (String.ofList front).rawEndPos := by
      rw [byteLength_eq_size, ← String.toByteArray_ofList]
      rfl
    rw [split, atEnd]
    exact String.Pos.Raw.isValid_rawEndPos.append_right back
  rw [spanAfter, Nat.zero_add]
  refine ⟨valid before _ whole, ?_, ?_, ?_⟩
  · have split : text = String.ofList (before ++ inside) ++ String.ofList after := by
      rw [whole, String.ofList_append, String.append_assoc]
    rw [← byteLength_append]
    exact valid (before ++ inside) _ split
  · have middle := ByteArray.extract_append_size_add (a := before.utf8Encode)
      (b := inside.utf8Encode ++ after.utf8Encode) (i := 0) (j := inside.utf8Encode.size)
    rw [Nat.add_zero] at middle
    rw [bytes, byteLength_eq_size, byteLength_eq_size, middle]
    exact ByteArray.extract_append_eq_left rfl
  · rw [bytes, size, byteLength_eq_size, byteLength_eq_size, ByteArray.extract_append_size_add]
    exact ByteArray.extract_append_eq_right rfl rfl

/-! ## What lexemes are made of -/

/-- The characters spell the token, and those after them do not go on with it.  A string
that nothing closes goes on to the end of the text. -/
inductive SpelledOut : TokenKind → List Char → List Char → Prop where
  | whole {kind : TokenKind} {spelled after : List Char} (spelling : TokenSpelling kind spelled)
      (ends : EndsBefore kind after) : SpelledOut kind spelled after
  | unclosed {content : String} (unquoted : Unquoted content) :
      SpelledOut (.string content) ('"' :: content.toList) []

/-- The character begins no token, and it is no blank. -/
structure Strange (c : Char) : Prop where
  noLayout : isLayout c = false
  noMark : c ∉ ['=', '(', ')', ',', '#', '!', '"']
  noDigit : c.isDigit = false
  noLetter : isAlphabetic c = false

/-- The characters have the fault, all of them, and those after them have no part in it. -/
inductive Misspelled : SyntaxFault → List Char → List Char → Prop where
  | numeral {digits after : List Char} (nonempty : digits ≠ [])
      (areDigits : ∀ digit ∈ digits, digit.isDigit = true)
      (ends : ∀ c ∈ after.head?, c.isDigit = false) (tooLarge : maxNumber < decimalValue digits) :
      Misspelled (.numberOutOfRange (String.ofList digits)) digits after
  | word {first : Char} {letters after : List Char} (begins : isAlphabetic first = true)
      (continues : ∀ c ∈ letters, isWordChar c = true)
      (ends : ∀ c ∈ after.head?, isWordChar c = false)
      (unknown : ∀ word : Keyword, (first :: letters).map Char.toLower ≠ word.spelling.toList) :
      Misspelled (.unknownIdentifier (String.ofList (first :: letters))) (first :: letters) after
  | character {c : Char} {after : List Char} (strange : Strange c) :
      Misspelled (.unexpectedCharacter c) [c] after

/-- The characters have the meaning, and none of those after them belongs to them. -/
def Meant : Except SyntaxFault TokenKind → List Char → List Char → Prop
  | .ok kind => SpelledOut kind
  | .error fault => Misspelled fault

theorem Meant.nonempty {meaning : Except SyntaxFault TokenKind} {spelled after : List Char}
    (meant : Meant meaning spelled after) : spelled ≠ [] := by
  cases meaning with
  | error fault =>
      cases meant with
      | numeral nonempty => exact nonempty
      | word => exact List.cons_ne_nil _ _
      | character => exact List.cons_ne_nil _ _
  | ok kind =>
      cases meant with
      | unclosed => exact List.cons_ne_nil _ _
      | whole spelling => exact spelling.ne_nil

/-- A lexeme is cut from the front of a text, and its characters have its meaning. -/
structure CutFrom (text : List Char) (lexeme : Lexeme) : Prop where
  whole : text = lexeme.spelled ++ lexeme.rest
  meant : Meant lexeme.meaning lexeme.spelled lexeme.rest

theorem head_dropWhile (test : Char → Bool) (text : List Char) :
    ∀ c ∈ (text.dropWhile test).head?, test c = false := by
  intro c isFirst
  have stops := List.head?_dropWhile_not test text
  rw [isFirst] at stops
  simpa using stops

theorem cutFrom_mark {kind : TokenKind} {c : Char} (rest : List Char)
    (spelling : TokenSpelling kind [c]) (ends : EndsBefore kind rest) :
    CutFrom (c :: rest) (Lexeme.mark kind c rest) :=
  ⟨rfl, .whole spelling ends⟩

theorem cutFrom_string (rest : List Char) : CutFrom ('"' :: rest) (Lexeme.string rest) := by
  have unquoted := unquoted_takeWhile rest
  have content : (String.ofList (rest.takeWhile (· != '"'))).toList = rest.takeWhile (· != '"') :=
    String.toList_ofList
  have split := List.takeWhile_append_dropWhile (p := (· != '"')) (l := rest)
  unfold Lexeme.string
  dsimp only
  split
  · rename_i nothing
    rw [nothing, List.append_nil] at split
    refine ⟨?_, ?_⟩
    · dsimp only
      rw [split, List.append_nil]
    · have spelled := SpelledOut.unclosed unquoted
      rw [content] at spelled
      exact spelled
  · rename_i close following found
    have isQuote : close = '"' := by
      have stops := head_dropWhile (· != '"') rest close (by rw [found]; rfl)
      simpa using stops
    subst close
    refine ⟨?_, ?_⟩
    · rw [found] at split
      simp only [List.cons_append, List.append_assoc, List.nil_append, split]
    · have spelled : SpelledOut _ _ following := .whole (.string unquoted) fun _ _ => rfl
      rw [content] at spelled
      exact spelled

theorem cutFrom_numeral {c : Char} (digit : c.isDigit = true) (rest : List Char) :
    CutFrom (c :: rest) (Lexeme.numeral (c :: rest)) := by
  have split := List.takeWhile_append_dropWhile (p := Char.isDigit) (l := c :: rest)
  have areDigits : ∀ digit ∈ (c :: rest).takeWhile Char.isDigit, digit.isDigit = true :=
    fun _ => List.mem_takeWhile_imp
  have ends := head_dropWhile Char.isDigit (c :: rest)
  have nonempty : (c :: rest).takeWhile Char.isDigit ≠ [] := by
    rw [List.takeWhile_cons_of_pos digit]
    exact List.cons_ne_nil _ _
  refine ⟨split.symm, ?_⟩
  unfold Lexeme.numeral
  dsimp only
  split
  · rename_i fits
    exact .whole (.number nonempty areDigits fits) ends
  · rename_i tooLarge
    exact .numeral nonempty areDigits ends (Nat.lt_of_not_le tooLarge)

theorem cutFrom_word {c : Char} (letter : isAlphabetic c = true) (rest : List Char) :
    CutFrom (c :: rest) (Lexeme.word (c :: rest)) := by
  have begins : isWordChar c = true := by simp [isWordChar, letter]
  have split := List.takeWhile_append_dropWhile (p := isWordChar) (l := c :: rest)
  have ends := head_dropWhile isWordChar (c :: rest)
  have letters : (c :: rest).takeWhile isWordChar = c :: rest.takeWhile isWordChar :=
    List.takeWhile_cons_of_pos begins
  refine ⟨split.symm, ?_⟩
  unfold Lexeme.word
  dsimp only
  split
  · rename_i word found
    have inAnyCase := List.find?_some found
    exact .whole (.keyword word (beq_iff_eq.mp inAnyCase).symm) ends
  · rename_i missing
    have unknown (word : Keyword) :
        (c :: rest.takeWhile isWordChar).map Char.toLower ≠ word.spelling.toList := by
      intro inAnyCase
      rw [letters, ofWord?_eq_some inAnyCase] at missing
      cases missing
    rw [letters]
    exact .word letter (fun _ => List.mem_takeWhile_imp) ends unknown

/-- The scan cuts a lexeme from the front of what is left of the text. -/
theorem cutFrom_next {c : Char} (noLayout : isLayout c = false) (rest : List Char) :
    CutFrom (c :: rest) (Lexeme.next c rest) := by
  unfold Lexeme.next
  split
  · subst c
    exact cutFrom_mark rest .equal fun _ _ => rfl
  split
  · subst c
    exact cutFrom_mark rest .leftParen fun _ _ => rfl
  split
  · subst c
    exact cutFrom_mark rest .rightParen fun _ _ => rfl
  split
  · subst c
    exact cutFrom_mark rest .comma fun _ _ => rfl
  split
  · subst c
    exact cutFrom_mark rest .hash fun _ _ => rfl
  split
  · subst c
    split
    · exact ⟨rfl, .whole .notEqual fun _ _ => rfl⟩
    · rename_i noEqual
      refine cutFrom_mark rest .bang ?_
      intro next isNext
      apply beq_eq_false_iff_ne.mpr
      rintro rfl
      cases rest with
      | nil => cases isNext
      | cons first following =>
          cases isNext
          exact noEqual following rfl
  split
  · subst c
    exact cutFrom_string rest
  split
  · exact cutFrom_numeral ‹_› rest
  split
  · exact cutFrom_word ‹_› rest
  · refine ⟨rfl, .character ⟨noLayout, ?_, ?_, ?_⟩⟩
    · simp only [List.mem_cons, List.not_mem_nil, or_false, not_or]
      exact ⟨‹_›, ‹_›, ‹_›, ‹_›, ‹_›, ‹_›, ‹_›⟩
    · exact Bool.eq_false_iff.mpr ‹_›
    · exact Bool.eq_false_iff.mpr ‹_›

/-! ## The items of a scan -/

/-- A token or an error, and where it stands. -/
structure Item where
  meaning : Except SyntaxFault TokenKind
  span : Span

/-- What a scan gives: its tokens, and then the error if there is one. -/
def Scan.items (scan : Scan) : List Item :=
  scan.tokens.map (fun token => ⟨.ok token.kind, token.span⟩) ++
    scan.error?.toList.flatMap fun error =>
      error.span.toList.map fun span => ⟨.error error.fault, span⟩

/-- Items that follow each other from a position on, with blanks before each of them.  Up
to an error they leave nothing of the text but blanks. -/
inductive Tiles : (position : Nat) → List Char → List Item → Prop where
  | done {position : Nat} {gap : List Char} (blank : Blank gap) : Tiles position gap []
  | token {position : Nat} {gap spelled rest : List Char} {kind : TokenKind} {items : List Item}
      (blank : Blank gap) (meant : Meant (.ok kind) spelled rest)
      (others : Tiles (spanAfter position gap spelled).stop rest items) :
      Tiles position (gap ++ (spelled ++ rest))
        (⟨.ok kind, spanAfter position gap spelled⟩ :: items)
  | error {position : Nat} {gap spelled rest : List Char} {fault : SyntaxFault}
      (blank : Blank gap) (meant : Meant (.error fault) spelled rest) :
      Tiles position (gap ++ (spelled ++ rest)) [⟨.error fault, spanAfter position gap spelled⟩]

theorem Tiles.after_blank {position : Nat} {c : Char} {text : List Char} {items : List Item}
    (blank : isLayout c = true) (tiles : Tiles (position + c.utf8Size) text items) :
    Tiles position (c :: text) items := by
  have moved (gap spelled : List Char) :
      spanAfter (position + c.utf8Size) gap spelled = spanAfter position (c :: gap) spelled := by
    unfold spanAfter
    rw [Nat.add_assoc position]
    rfl
  cases tiles with
  | done others => exact .done (List.forall_mem_cons.mpr ⟨blank, others⟩)
  | token others meant rest =>
      rw [moved] at rest
      rw [moved]
      exact .token (List.forall_mem_cons.mpr ⟨blank, others⟩) meant rest
  | error others meant =>
      rw [moved]
      exact .error (List.forall_mem_cons.mpr ⟨blank, others⟩) meant

/-- A scan tiles the text that it cuts. -/
theorem tiles_scan (position : Nat) (text : List Char) :
    Tiles position text (Scan.ofChars position text).items := by
  have noGap : Blank [] := List.forall_mem_nil _
  fun_induction Scan.ofChars position text with
  | case1 => exact .done noGap
  | case2 position c rest blank inductionHypothesis => exact inductionHypothesis.after_blank blank
  | case3 position c rest noLayout lexeme span fault failed =>
      have cut := cutFrom_next (Bool.eq_false_iff.mpr noLayout) rest
      have meant := cut.meant
      rw [failed] at meant
      rw [cut.whole]
      exact .error noGap meant
  | case4 position c rest noLayout lexeme span kind succeeded following inductionHypothesis =>
      have cut := cutFrom_next (Bool.eq_false_iff.mpr noLayout) rest
      have meant := cut.meant
      rw [succeeded] at meant
      rw [cut.whole]
      exact .token noGap meant inductionHypothesis

/-! ## Spans and gaps -/

/-- The position is that of a byte of the span. -/
def Covers (span : Span) (position : Nat) : Prop :=
  span.start ≤ position ∧ position < span.stop

/-- The item is no error. -/
def Item.IsToken (item : Item) : Prop :=
  ∃ kind, item.meaning = .ok kind

/-- An item that stands in a text which begins at a position, and the parts of the text that
it is, that it comes after and that it comes before. -/
structure Placed (position : Nat) (text : List Char) (item : Item)
    (before inside after : List Char) : Prop where
  parts : text = before ++ (inside ++ after)
  span : item.span = spanAfter position before inside
  meant : Meant item.meaning inside after

/-- A character of a text in two parts stands in the first of them or in the second. -/
theorem append_cases {front back before after : List Char} {c : Char}
    (split : front ++ back = before ++ c :: after) :
    (c ∈ front ∧ byteLength before < byteLength front) ∨
      ∃ more, before = front ++ more ∧ back = more ++ c :: after := by
  rcases List.append_eq_append_iff.mp split with ⟨more, same, rest⟩ | ⟨more, same, rest⟩
  · exact .inr ⟨more, same, rest⟩
  · cases more with
    | nil =>
        rw [List.append_nil] at same
        exact .inr ⟨[], same ▸ (List.append_nil _).symm, rest.symm⟩
    | cons first more =>
        cases rest
        have longer := byteLength_pos (List.cons_ne_nil c more)
        subst same
        rw [byteLength_append]
        exact .inl ⟨List.mem_append_cons_self, Nat.lt_add_of_pos_right longer⟩

theorem spanAfter_append (position : Nat) (front before inside : List Char) :
    spanAfter (position + byteLength front) before inside =
      spanAfter position (front ++ before) inside := by
  rw [spanAfter, spanAfter, byteLength_append, Nat.add_assoc position]

namespace Tiles

variable {position : Nat} {text : List Char} {items : List Item}

theorem placed (tiles : Tiles position text items) :
    ∀ item ∈ items, ∃ before inside after, Placed position text item before inside after := by
  induction tiles with
  | done => exact List.forall_mem_nil _
  | error blank meant => exact List.forall_mem_singleton.mpr ⟨_, _, _, rfl, rfl, meant⟩
  | @token position gap spelled rest kind items blank meant others inductionHypothesis =>
      refine List.forall_mem_cons.mpr ⟨⟨_, _, _, rfl, rfl, meant⟩, fun item member => ?_⟩
      rcases inductionHypothesis item member with ⟨before, inside, after, placed⟩
      refine ⟨gap ++ (spelled ++ before), inside, after, ?_, ?_, placed.meant⟩
      · rw [placed.parts, List.append_assoc, List.append_assoc]
      · rw [placed.span, ← List.append_assoc, ← spanAfter_append, byteLength_append,
          ← Nat.add_assoc]
        rfl

theorem start_le (tiles : Tiles position text items) :
    ∀ item ∈ items, position ≤ item.span.start := by
  intro item member
  rcases tiles.placed item member with ⟨before, inside, after, placed⟩
  rw [placed.span]
  exact Nat.le_add_right _ _

theorem ordered (tiles : Tiles position text items) :
    items.Pairwise fun earlier later => earlier.span.stop ≤ later.span.start := by
  induction tiles with
  | done => exact .nil
  | error => exact List.pairwise_singleton _ _
  | token blank meant others inductionHypothesis =>
      exact List.pairwise_cons.mpr ⟨others.start_le, inductionHypothesis⟩

theorem errorLast (tiles : Tiles position text items) : ∀ item ∈ items.dropLast, item.IsToken := by
  induction tiles with
  | done => exact List.forall_mem_nil _
  | error => exact List.forall_mem_nil _
  | @token position gap spelled rest kind items blank meant others inductionHypothesis =>
      cases items with
      | nil => exact List.forall_mem_nil _
      | cons next items =>
          rw [List.dropLast_cons_of_ne_nil (List.cons_ne_nil next items)]
          exact List.forall_mem_cons.mpr ⟨⟨kind, rfl⟩, inductionHypothesis⟩

/-- A character outside of all items is a blank, unless it comes after an error. -/
theorem blank_outside (tiles : Tiles position text items) {before after : List Char} {c : Char}
    (split : text = before ++ c :: after)
    (outside : ∀ item ∈ items, ¬ Covers item.span (position + byteLength before))
    (reached : (∀ item ∈ items, item.IsToken) ∨
      ∃ item ∈ items, position + byteLength before < item.span.start) : isLayout c = true := by
  induction tiles generalizing before with
  | done blank =>
      subst split
      exact blank c List.mem_append_cons_self
  | @error position gap spelled rest fault blank meant =>
      rcases append_cases split with ⟨inGap, -⟩ | ⟨more, rfl, back⟩
      · exact blank c inGap
      have notInside := outside _ List.mem_cons_self
      rw [byteLength_append] at notInside reached
      rcases append_cases back with ⟨-, inside⟩ | ⟨later, rfl, -⟩
      · refine absurd ⟨?_, ?_⟩ notInside
        · exact Nat.add_le_add_left (Nat.le_add_right _ _) position
        · change _ < position + byteLength gap + byteLength spelled
          omega
      · -- nothing is said of what comes after an error
        rcases reached with tokens | ⟨item, member, earlier⟩
        · rcases tokens _ List.mem_cons_self with ⟨kind, impossible⟩
          cases impossible
        · cases List.mem_singleton.mp member
          change _ < position + byteLength gap at earlier
          omega
  | @token position gap spelled rest kind items blank meant others inductionHypothesis =>
      rcases append_cases split with ⟨inGap, -⟩ | ⟨more, rfl, back⟩
      · exact blank c inGap
      have notInside := outside _ List.mem_cons_self
      rw [byteLength_append] at notInside
      rcases append_cases back with ⟨-, inside⟩ | ⟨later, rfl, rest⟩
      · refine absurd ⟨?_, ?_⟩ notInside
        · exact Nat.add_le_add_left (Nat.le_add_right _ _) position
        · change _ < position + byteLength gap + byteLength spelled
          omega
      · have place : position + byteLength (gap ++ (spelled ++ later)) =
            (spanAfter position gap spelled).stop + byteLength later := by
          rw [byteLength_append, byteLength_append, ← Nat.add_assoc, ← Nat.add_assoc]
          rfl
        rw [place] at outside reached
        refine inductionHypothesis rest (List.forall_mem_cons.mp outside |>.2) ?_
        rcases reached with tokens | ⟨item, member, earlier⟩
        · exact .inl (List.forall_mem_cons.mp tokens |>.2)
        · rcases List.mem_cons.mp member with rfl | isLater
          · change _ < position + byteLength gap at earlier
            change position + byteLength gap + byteLength spelled + _ < _ at earlier
            omega
          · exact .inr ⟨item, isLater, earlier⟩

theorem length_le (tiles : Tiles position text items) : items.length ≤ text.length := by
  induction tiles with
  | done => exact Nat.zero_le _
  | @error position gap spelled rest fault blank meant =>
      have spelledPos := List.length_pos_iff.mpr meant.nonempty
      rw [List.length_singleton, List.length_append, List.length_append]
      omega
  | @token position gap spelled rest kind items blank meant others inductionHypothesis =>
      have spelledPos := List.length_pos_iff.mpr meant.nonempty
      rw [List.length_cons, List.length_append, List.length_append]
      omega

end Tiles

/-! ## Texts -/

/-- The items cover a text but for blanks.  They are tokens, and the last may be an error;
after an error nothing is said of the text. -/
structure Tiling (text : String) (items : List Item) : Prop where
  finite : items.length ≤ text.length
  errorLast : ∀ item ∈ items.dropLast, item.IsToken
  nonempty : ∀ item ∈ items, item.span.start < item.span.stop
  within : ∀ item ∈ items, item.span.stop ≤ text.utf8ByteSize
  ordered : items.Pairwise fun earlier later => earlier.span.stop ≤ later.span.start
  meant : ∀ item ∈ items, ∃ inside after,
    Shown text item.span inside after ∧ Meant item.meaning inside after
  blanks : ∀ before c after, text.toList = before ++ c :: after →
    (∀ item ∈ items, ¬ Covers item.span (byteLength before)) →
    ((∀ item ∈ items, item.IsToken) ∨ ∃ item ∈ items, byteLength before < item.span.start) →
    c ∈ [' ', '\t', '\r', '\n']

theorem Tiles.tiling {text : String} {items : List Item} (tiles : Tiles 0 text.toList items) :
    Tiling text items := by
  have shown : ∀ item ∈ items, ∃ inside after,
      (item.span.start < item.span.stop ∧ item.span.stop ≤ text.utf8ByteSize) ∧
        Shown text item.span inside after ∧ Meant item.meaning inside after := by
    intro item member
    rcases tiles.placed item member with ⟨before, inside, after, placed⟩
    have longer := byteLength_pos placed.meant.nonempty
    have shown := shown_of_append placed.parts
    rw [← placed.span] at shown
    refine ⟨inside, after, ⟨?_, shown.stop.le_rawEndPos⟩, shown, placed.meant⟩
    rw [placed.span]
    exact Nat.lt_add_of_pos_right longer
  refine ⟨?_, tiles.errorLast, ?_, ?_, tiles.ordered, ?_, ?_⟩
  · rw [← String.length_toList]
    exact tiles.length_le
  · intro item member
    rcases shown item member with ⟨-, -, bounds, -⟩
    exact bounds.1
  · intro item member
    rcases shown item member with ⟨-, -, bounds, -⟩
    exact bounds.2
  · intro item member
    rcases shown item member with ⟨inside, after, -, meant⟩
    exact ⟨inside, after, meant⟩
  · intro before c after split outside reached
    rw [← Nat.zero_add (byteLength before)] at outside reached
    have layout := tiles.blank_outside split outside reached
    simpa [isLayout, or_assoc] using layout

/-- A scan that fails says where. -/
theorem span_of_scan_error (position : Nat) (text : List Char) :
    ∀ error ∈ (Scan.ofChars position text).error?, error.span ≠ none := by
  fun_induction Scan.ofChars position text with
  | case1 =>
      intro error isError
      cases isError
  | case2 position c rest blank inductionHypothesis => exact inductionHypothesis
  | case3 position c rest noLayout lexeme span fault failed =>
      intro error isError
      cases isError
      exact Option.some_ne_none span
  | case4 position c rest noLayout lexeme span kind succeeded following inductionHypothesis =>
      exact inductionHypothesis

theorem mem_items_of_token {scan : Scan} {token : Token} (member : token ∈ scan.tokens) :
    ⟨.ok token.kind, token.span⟩ ∈ scan.items :=
  List.mem_append_left _ (List.mem_map_of_mem member)

theorem mem_items_of_error {scan : Scan} {error : SyntaxError} {span : Span}
    (isError : scan.error? = some error) (place : error.span = some span) :
    ⟨.error error.fault, span⟩ ∈ scan.items := by
  apply List.mem_append_right
  rw [isError, Option.toList_some, List.flatMap_singleton, place]
  exact List.mem_cons_self

/-- An error of reading is at a token, or it is the error of the scan. -/
theorem item_of_read_error {text : String} {error : SyntaxError} {span : Span}
    (failure : read text = .error error) (place : error.span = some span) :
    ∃ item ∈ (Scan.ofText text).items, item.span = span := by
  unfold read tokenize Scan.result at failure
  cases scanned : (Scan.ofText text).error? with
  | some fault =>
      rw [scanned] at failure
      cases failure
      exact ⟨_, mem_items_of_error scanned place, rfl⟩
  | none =>
      rw [scanned] at failure
      rcases span_of_ofTokens_error failure place with ⟨token, member, same⟩
      exact ⟨_, mem_items_of_token member, same⟩

/-- The tokens of a text tile it, with the error that the scan may end with; and an error of
reading is at one of them, if it is at a place. -/
theorem spans_tile_text (text : String) :
    Tiling text (Scan.ofText text).items ∧
      (∀ error ∈ (Scan.ofText text).error?, error.span ≠ none) ∧
      ∀ error, read text = .error error → ∀ span ∈ error.span,
        ∃ item ∈ (Scan.ofText text).items, item.span = span := by
  refine ⟨(tiles_scan 0 text.toList).tiling, span_of_scan_error 0 text.toList, ?_⟩
  intro error failure span place
  exact item_of_read_error failure place

/-- A letter of two bytes before the token that is refused. -/
theorem spans_tile_accented_tag :
    Tiling "#\"é\" = 5" (Scan.ofText "#\"é\" = 5").items ∧
      read "#\"é\" = 5" = .error (.located (.mismatch .string (.number 5)) ⟨8, 9⟩) ∧
      ∃ item ∈ (Scan.ofText "#\"é\" = 5").items, item.span = ⟨8, 9⟩ := by
  have failure : read "#\"é\" = 5" = .error (.located (.mismatch .string (.number 5)) ⟨8, 9⟩) := by
    decide +kernel
  have tiled := spans_tile_text "#\"é\" = 5"
  exact ⟨tiled.1, failure, tiled.2.2 _ failure ⟨8, 9⟩ rfl⟩

end Query
end TestQuery
