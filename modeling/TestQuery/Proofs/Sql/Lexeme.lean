import TestQuery.Sql.Fragment

namespace TestQuery
namespace Sql

/-!
# The lexical units of a statement

The text of a statement is split here the way a database splits it, without
looking at how it was put together.  A name stands between the quotes of the
dialect, and a quote inside it is written twice.  Outside names there are words,
signs, and the marks that hold the places of parameters; blanks only part them.

The characters are taken one at a time.  `Pending` is what has been begun and may
still be continued by the next character, so that what a text is split into can
be followed from one piece of it to the next.
-/

inductive Lexeme where
  /-- A name, without its quotes. -/
  | name (content : String)
  | word (letters : String)
  | sign (characters : String)
  /-- The place of a parameter, by its mark. -/
  | place (mark : String)
  /-- A value in the place of a parameter.  No text has one. -/
  | value (content : Value)
  /-- A name whose closing quote is missing. -/
  | unclosed (content : String)
deriving DecidableEq

namespace Dialect

/-- The character that begins the mark of a parameter. -/
def mark : Dialect → Char
  | .postgres => '$'
  | _ => '?'

end Dialect

namespace Lexeme

/-! ## Kinds of characters -/

/-- The characters of which the signs for comparisons consist. -/
def isOperator (c : Char) : Bool :=
  c == '=' || c == '<' || c == '>'

def isWordChar (c : Char) : Bool :=
  c.isAlphanum || c == '_' || c == '$'

def isBlank (c : Char) : Bool :=
  c == ' ' || c == '\t' || c == '\r' || c == '\n'

/-! ## Taking one character after another -/

/-- What the last characters have begun. -/
inductive Pending where
  | nothing
  | word (letters : List Char)
  | operator (characters : List Char)
  | sign (character : Char)
  | place (mark : List Char)
  /-- Inside a name. -/
  | quoted (content : List Char)
  /-- After a quote inside a name: it ends the name unless another one follows. -/
  | quote (content : List Char)
deriving DecidableEq

namespace Pending

/-- The lexeme that was begun, when nothing continues it. -/
def finish : Pending → List Lexeme
  | .nothing => []
  | .word letters => [.word (String.ofList letters)]
  | .operator characters => [.sign (String.ofList characters)]
  | .sign character => [.sign (String.ofList [character])]
  | .place mark => [.place (String.ofList mark)]
  | .quoted content => [.unclosed (String.ofList content)]
  | .quote content => [.name (String.ofList content)]

/-- What a character begins. -/
def start (dialect : Dialect) (c : Char) : Pending :=
  if c = dialect.quote then .quoted []
  else if c = dialect.mark then .place [c]
  else if isOperator c then .operator [c]
  else if isBlank c then .nothing
  else if isWordChar c then .word [c]
  else .sign c

/-- What was begun together with a character that continues it. -/
def extend? (dialect : Dialect) (pending : Pending) (c : Char) : Option Pending :=
  match pending with
  | .nothing => none
  | .word letters => if isWordChar c then some (.word (letters ++ [c])) else none
  | .operator characters => if isOperator c then some (.operator (characters ++ [c])) else none
  | .sign _ => none
  | .place mark => if c.isDigit then some (.place (mark ++ [c])) else none
  | .quoted content =>
    some (if c = dialect.quote then .quote content else .quoted (content ++ [c]))
  | .quote content => if c = dialect.quote then some (.quoted (content ++ [c])) else none

end Pending

/-- The lexemes that are complete after the characters, and what is pending then. -/
def advance (dialect : Dialect) : Pending → List Char → List Lexeme × Pending
  | pending, [] => ([], pending)
  | pending, c :: rest =>
    match pending.extend? dialect c with
    | some longer => advance dialect longer rest
    | none =>
      let following := advance dialect (.start dialect c) rest
      (pending.finish ++ following.1, following.2)

def scan (dialect : Dialect) (text : List Char) : List Lexeme :=
  (advance dialect .nothing text).1 ++ (advance dialect .nothing text).2.finish

/-! ## Splitting a text in two -/

@[simp] theorem advance_nil (dialect : Dialect) (pending : Pending) :
    advance dialect pending [] = ([], pending) := rfl

theorem advance_cons_of_extend {dialect : Dialect} {pending longer : Pending} {c : Char}
    (continues : pending.extend? dialect c = some longer) (rest : List Char) :
    advance dialect pending (c :: rest) = advance dialect longer rest := by
  rw [advance, continues]

/-- A character that does not continue what is pending begins something new. -/
theorem advance_cons_of_stop {dialect : Dialect} {pending : Pending} {c : Char}
    (stops : pending.extend? dialect c = none) (rest : List Char) :
    advance dialect pending (c :: rest) =
      (pending.finish ++ (advance dialect (.start dialect c) rest).1,
        (advance dialect (.start dialect c) rest).2) := by
  rw [advance, stops]

theorem advance_append (dialect : Dialect) (pending : Pending) (left right : List Char) :
    advance dialect pending (left ++ right) =
      ((advance dialect pending left).1 ++
          (advance dialect (advance dialect pending left).2 right).1,
        (advance dialect (advance dialect pending left).2 right).2) := by
  induction left generalizing pending with
  | nil => rfl
  | cons c left inductionHypothesis =>
      rw [List.cons_append]
      cases next : pending.extend? dialect c with
      | some longer =>
          rw [advance_cons_of_extend next, advance_cons_of_extend next]
          exact inductionHypothesis longer
      | none =>
          rw [advance_cons_of_stop next, advance_cons_of_stop next, inductionHypothesis,
            List.append_assoc]

/-- From whatever is pending, a text that does not continue it is split as it is
from its beginning. -/
theorem advance_of_stop {dialect : Dialect} {pending : Pending} {text : List Char}
    (stops : ∀ c ∈ text.head?, pending.extend? dialect c = none) (nonempty : text ≠ []) :
    advance dialect pending text =
      (pending.finish ++ (advance dialect .nothing text).1,
        (advance dialect .nothing text).2) := by
  cases text with
  | nil => exact absurd rfl nonempty
  | cons c rest =>
      have begins : Pending.extend? dialect .nothing c = none := rfl
      rw [advance_cons_of_stop (stops c rfl), advance_cons_of_stop begins]
      rfl

/-! ## Names -/

/-- Inside a name, doubled quotes are taken as quotes and all else as it is. -/
theorem advance_doubled (dialect : Dialect) (before name : List Char) :
    advance dialect (.quoted before)
        (name.flatMap fun c => if c = dialect.quote then [c, c] else [c]) =
      ([], .quoted (before ++ name)) := by
  induction name generalizing before with
  | nil => rw [List.flatMap_nil, advance_nil, List.append_nil]
  | cons c name inductionHypothesis =>
      have shifted : before ++ c :: name = (before ++ [c]) ++ name := by
        rw [List.append_assoc, List.singleton_append]
      rw [List.flatMap_cons, shifted, ← inductionHypothesis (before ++ [c])]
      by_cases quote : c = dialect.quote
      · have first : Pending.extend? dialect (.quoted before) c = some (.quote before) := by
          simp [Pending.extend?, quote]
        have second :
            Pending.extend? dialect (.quote before) c = some (.quoted (before ++ [c])) := by
          simp [Pending.extend?, quote]
        rw [if_pos quote, List.cons_append, List.singleton_append, advance_cons_of_extend first,
          advance_cons_of_extend second]
      · have only :
            Pending.extend? dialect (.quoted before) c = some (.quoted (before ++ [c])) := by
          simp [Pending.extend?, quote]
        rw [if_neg quote, List.singleton_append, advance_cons_of_extend only]

/-- A name in quotes is one lexeme, whatever its characters are. -/
theorem advance_quoteName (dialect : Dialect) (name : List Char) :
    advance dialect .nothing (dialect.quoteName name) = ([], .quote name) := by
  have begins : Pending.extend? dialect .nothing dialect.quote = none := rfl
  have opening : Pending.start dialect dialect.quote = .quoted [] := by simp [Pending.start]
  have closing : Pending.extend? dialect (.quoted name) dialect.quote = some (.quote name) := by
    simp [Pending.extend?]
  rw [Dialect.quoteName, advance_cons_of_stop begins, opening, advance_append, advance_doubled]
  simp only [List.nil_append]
  rw [advance_cons_of_extend closing]
  rfl

/-! ## Marks of parameters -/

theorem advance_digits (dialect : Dialect) (mark : List Char) {digits : List Char}
    (areDigits : ∀ c ∈ digits, c.isDigit = true) :
    advance dialect (.place mark) digits = ([], .place (mark ++ digits)) := by
  induction digits generalizing mark with
  | nil => rw [advance_nil, List.append_nil]
  | cons c digits inductionHypothesis =>
      have digit : c.isDigit = true := areDigits c List.mem_cons_self
      have longer : Pending.extend? dialect (.place mark) c = some (.place (mark ++ [c])) := by
        simp [Pending.extend?, digit]
      rw [advance_cons_of_extend longer,
        inductionHypothesis _ (fun d member => areDigits d (List.mem_cons_of_mem c member)),
        List.append_assoc, List.singleton_append]

/-- The mark of a parameter is one lexeme. -/
theorem advance_placeholder (dialect : Dialect) (number : Nat) :
    advance dialect .nothing (dialect.placeholder number) =
      ([], .place (dialect.placeholder number)) := by
  cases dialect with
  | postgres =>
      have begins : Pending.extend? .postgres .nothing '$' = none := rfl
      have opening : Pending.start .postgres '$' = .place ['$'] := by decide
      have digits : ∀ c ∈ Nat.toDigits 10 number, c.isDigit = true := fun c member =>
        Nat.isDigit_of_mem_toDigits (by decide) (by decide) member
      rw [Dialect.placeholder, advance_cons_of_stop begins, opening,
        advance_digits .postgres ['$'] digits]
      rfl
  | mysql => rfl
  | sqlite => rfl

/-! ## Plain text

The fixed text between names and marks consists of letters, signs and breaks.  It
makes words and signs only, in the same way in every dialect. -/

/-- The characters that end whatever is pending outside a name and are complete
themselves. -/
def isBreak (c : Char) : Bool :=
  c == ' ' || c == '(' || c == ')' || c == ',' || c == '.' || c == '*'

/-- The characters of fixed text. -/
def isPlain (c : Char) : Bool :=
  c.isAlpha || isOperator c || isBreak c

/-- Words and signs. -/
def isFixed : Lexeme → Bool
  | .word _ | .sign _ => true
  | _ => false

namespace Pending

/-- What makes a word or a sign, or nothing. -/
def isFixed : Pending → Bool
  | .nothing | .word _ | .operator _ | .sign _ => true
  | _ => false

/-- No character continues what is pending. -/
def Firm (dialect : Dialect) (pending : Pending) : Prop :=
  ∀ c, pending.extend? dialect c = none

/-- No break continues what is pending. -/
def Loose (dialect : Dialect) (pending : Pending) : Prop :=
  ∀ c, isBreak c = true → pending.extend? dialect c = none

theorem Firm.loose {dialect : Dialect} {pending : Pending} (firm : pending.Firm dialect) :
    pending.Loose dialect :=
  fun c _ => firm c

end Pending

/-- A break continues neither a word nor a sign. -/
theorem break_ends {c : Char} (breaks : isBreak c = true) :
    isWordChar c = false ∧ isOperator c = false := by
  have characters : c = ' ' ∨ c = '(' ∨ c = ')' ∨ c = ',' ∨ c = '.' ∨ c = '*' := by
    simpa [isBreak, or_assoc] using breaks
  rcases characters with equal | equal | equal | equal | equal | equal <;> subst equal <;> decide

theorem plain_of_break {c : Char} (breaks : isBreak c = true) : isPlain c = true := by
  simp [isPlain, breaks]

/-- Neither quotes nor marks occur in fixed text. -/
theorem plain_ne {c other : Char} (plain : isPlain c = true) (foreign : isPlain other = false) :
    c ≠ other := by
  intro equal
  rw [equal, foreign] at plain
  cases plain

theorem quote_not_plain (dialect : Dialect) : isPlain dialect.quote = false := by
  cases dialect <;> decide

theorem mark_not_plain (dialect : Dialect) : isPlain dialect.mark = false := by
  cases dialect <;> decide

namespace Pending

theorem loose_of_fixed (dialect : Dialect) {pending : Pending} (fixed : pending.isFixed = true) :
    pending.Loose dialect := by
  intro c breaks
  cases pending with
  | nothing => rfl
  | word letters => simp [extend?, (break_ends breaks).1]
  | operator characters => simp [extend?, (break_ends breaks).2]
  | sign character => rfl
  | place mark => cases fixed
  | quoted content => cases fixed
  | quote content => cases fixed

theorem start_fixed (dialect : Dialect) {c : Char} (plain : isPlain c = true) :
    (start dialect c).isFixed = true := by
  rw [start, if_neg (plain_ne plain (quote_not_plain dialect)),
    if_neg (plain_ne plain (mark_not_plain dialect))]
  split
  · rfl
  · split
    · rfl
    · split <;> rfl

theorem start_break (dialect : Dialect) {c : Char} (breaks : isBreak c = true) :
    (start dialect c).Firm dialect := by
  have plain := plain_of_break breaks
  intro other
  rw [start, if_neg (plain_ne plain (quote_not_plain dialect)),
    if_neg (plain_ne plain (mark_not_plain dialect)), (break_ends breaks).2, (break_ends breaks).1]
  cases isBlank c <;> rfl

theorem extend_fixed {dialect : Dialect} {pending longer : Pending} {c : Char}
    (fixed : pending.isFixed = true) (continues : pending.extend? dialect c = some longer) :
    longer.isFixed = true := by
  cases pending with
  | word letters =>
      rw [extend?] at continues
      split at continues
      · cases continues; rfl
      · cases continues
  | operator characters =>
      rw [extend?] at continues
      split at continues
      · cases continues; rfl
      · cases continues
  | nothing => cases continues
  | sign character => cases continues
  | place mark => cases fixed
  | quoted content => cases fixed
  | quote content => cases fixed

theorem finish_fixed {pending : Pending} (fixed : pending.isFixed = true) :
    ∀ lexeme ∈ pending.finish, lexeme.isFixed = true := by
  cases pending <;> simp_all [finish, isFixed, Lexeme.isFixed]

end Pending

/-- Fixed text makes words and signs only. -/
theorem advance_plain (dialect : Dialect) {pending : Pending} {text : List Char}
    (fixed : pending.isFixed = true) (plain : ∀ c ∈ text, isPlain c = true) :
    (∀ lexeme ∈ (advance dialect pending text).1, lexeme.isFixed = true) ∧
      (advance dialect pending text).2.isFixed = true := by
  induction text generalizing pending with
  | nil => exact ⟨fun lexeme member => absurd member List.not_mem_nil, fixed⟩
  | cons c rest inductionHypothesis =>
      have restPlain : ∀ d ∈ rest, isPlain d = true :=
        fun d member => plain d (List.mem_cons_of_mem c member)
      cases next : pending.extend? dialect c with
      | some longer =>
          rw [advance_cons_of_extend next]
          exact inductionHypothesis (Pending.extend_fixed fixed next) restPlain
      | none =>
          have following := inductionHypothesis
            (Pending.start_fixed dialect (plain c List.mem_cons_self)) restPlain
          rw [advance_cons_of_stop next]
          refine ⟨?_, following.2⟩
          intro lexeme member
          rcases List.mem_append.mp member with before | after
          · exact Pending.finish_fixed fixed lexeme before
          · exact following.1 lexeme after

/-- After fixed text, only a character that is no break can continue a lexeme. -/
theorem loose_advance_plain (dialect : Dialect) {text : List Char}
    (plain : ∀ c ∈ text, isPlain c = true) :
    (advance dialect .nothing text).2.Loose dialect :=
  Pending.loose_of_fixed dialect (advance_plain dialect rfl plain).2

/-- After fixed text that ends with a break, no character continues a lexeme. -/
theorem firm_advance_break (dialect : Dialect) {text : List Char} {c : Char}
    (plain : ∀ d ∈ text, isPlain d = true) (breaks : isBreak c = true) :
    (advance dialect .nothing (text ++ [c])).2.Firm dialect := by
  have stops := loose_advance_plain dialect plain c breaks
  rw [advance_append]
  simp only [advance_cons_of_stop stops, advance_nil]
  exact Pending.start_break dialect breaks

end Lexeme
end Sql
end TestQuery
