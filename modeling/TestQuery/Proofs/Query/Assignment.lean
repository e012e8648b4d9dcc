import TestQuery.Proofs.Query.Layout
import TestQuery.Proofs.Query.Sentence

namespace TestQuery
namespace Query

open Text

/-!
# What a text assigns

Page and dates are written as a word, a sign of equality and a value.  Such a word begins
its clause and stands nowhere else.  So what a query has as its page and its dates can be
told from the tokens of its text without a derivation: it is what follows the word, or the
default where the word is missing.  A number that is too large to be held is no token, so a
text that assigns it is no query.
-/

/-- The words that a value is assigned to. -/
def TokenKind.isAssignable : TokenKind → Bool
  | .keyword .offset | .keyword .limit | .keyword .startDate | .keyword .endDate => true
  | _ => false

/-- A word and the value that a clause assigns to it. -/
def Clause.assignment? : Clause → Option (Keyword × TokenKind)
  | .offset value => some (.offset, .number value)
  | .limit value => some (.limit, .number value)
  | .startDate moment => some (.startDate, .string (moment.render .query))
  | .endDate moment => some (.endDate, .string (moment.render .query))
  | .filter _ | .groupBy _ | .group _ => none

/-- A value is assigned to a word somewhere among the tokens. -/
def Assigned (kinds : List TokenKind) (word : Keyword) (value : TokenKind) : Prop :=
  [.keyword word, .equal, value] <:+: kinds

/-! ## Words in clauses -/

/-- None of the tokens is a word that a value is assigned to. -/
def Unassigning (kinds : List TokenKind) : Prop :=
  ∀ kind ∈ kinds, kind.isAssignable = false

theorem Unassigning.append {front rest : List TokenKind} (first : Unassigning front)
    (second : Unassigning rest) : Unassigning (front ++ rest) :=
  List.forall_mem_append.mpr ⟨first, second⟩

theorem Unassigning.cons {kind : TokenKind} {rest : List TokenKind}
    (first : kind.isAssignable = false) (others : Unassigning rest) :
    Unassigning (kind :: rest) :=
  List.forall_mem_cons.mpr ⟨first, others⟩

theorem Unassigning.nil : Unassigning [] :=
  List.forall_mem_nil _

theorem unassigning_predicate {kinds : List TokenKind} {predicate : Predicate}
    (spelled : SpellsPredicate kinds predicate) : Unassigning kinds := by
  have sign (comparison : Equality) : (comparisonKind comparison).isAssignable = false := by
    cases comparison <;> rfl
  have compared (first : TokenKind) (plain : first.isAssignable = false) (comparison : Equality)
      (value : String) : Unassigning [first, comparisonKind comparison, .string value] :=
    .cons plain (.cons (sign comparison) (.cons rfl .nil))
  cases spelled with
  | session comparison => exact compared _ rfl comparison _
  | testcase comparison => exact compared _ rfl comparison _
  | text field comparison => exact compared _ (by cases field <;> rfl) comparison _
  | status comparison => exact compared _ rfl comparison _
  | tagged => exact .cons rfl (.cons rfl .nil)
  | untagged => exact .cons rfl (.cons rfl (.cons rfl .nil))
  | taggedWith named comparison => exact .cons rfl (compared _ rfl comparison _)

theorem unassigning_links {kinds : List TokenKind} {links : List Link}
    (spelled : SpellsLinks kinds links) : Unassigning kinds := by
  induction spelled with
  | nil => exact .nil
  | cons connective head tail inductionHypothesis =>
      refine .cons ?_ ((unassigning_predicate head).append inductionHypothesis)
      cases connective <;> rfl

theorem unassigning_list {α : Type} {item : List TokenKind → α → Prop}
    (each : ∀ kinds value, item kinds value → Unassigning kinds) {kinds : List TokenKind}
    {values : List α} (spelled : SpellsList item kinds values) : Unassigning kinds := by
  induction spelled with
  | last spelled => exact each _ _ spelled
  | more spelled tail inductionHypothesis =>
      exact (each _ _ spelled).append (.cons rfl inductionHypothesis)

/-- A clause assigns a value and consists of that, or it has no word that could be assigned
to. -/
theorem SpellsClause.assignment {kinds : List TokenKind} {clause : Clause}
    (spelled : SpellsClause kinds clause) :
    match clause.assignment? with
    | some (word, value) =>
      kinds = [.keyword word, .equal, value] ∧ Unassigning [.equal, value]
    | none => Unassigning kinds := by
  have assigned (value : TokenKind) (plain : value.isAssignable = false) :
      Unassigning [.equal, value] := .cons rfl (.cons plain .nil)
  cases spelled with
  | filter first others =>
      exact (unassigning_predicate first).append (unassigning_links others)
  | groupBy listed =>
      have keys := unassigning_list (fun kinds key (spelled : SpellsKey kinds key) => by
        cases spelled with
        | session => exact .cons rfl .nil
        | tag => exact .cons rfl (.cons rfl .nil)) listed
      exact .cons rfl (.cons rfl (keys.append (.cons rfl .nil)))
  | group listed =>
      have values := unassigning_list (fun kinds value (spelled : SpellsText kinds value) => by
        cases spelled
        exact .cons rfl .nil) listed
      exact .cons rfl (.cons rfl (.cons rfl (values.append (.cons rfl .nil))))
  | offset value => exact ⟨rfl, assigned _ rfl⟩
  | limit value => exact ⟨rfl, assigned _ rfl⟩
  | startDate moment => exact ⟨rfl, assigned _ rfl⟩
  | endDate moment => exact ⟨rfl, assigned _ rfl⟩

/-! ## Words in sentences -/

/-- What comes after a word that is not in the front comes after the front. -/
theorem split_after {front rest before after : List TokenKind} {kind : TokenKind}
    (absent : kind ∉ front) (split : front ++ rest = before ++ kind :: after) :
    ∃ later, rest = later ++ kind :: after := by
  rcases List.append_eq_append_iff.mp split with ⟨later, -, found⟩ | ⟨more, rfl, found⟩
  · exact ⟨later, found⟩
  · cases more with
    | nil => exact ⟨[], found.symm⟩
    | cons first more =>
        cases found
        exact absurd List.mem_append_cons_self absent

variable {kinds : List TokenKind} {clauses : List Clause} {word : Keyword}

/-- An occurrence of the word is that of a clause that assigns to it. -/
theorem clause_of_occurrence (assignable : (TokenKind.keyword word).isAssignable = true)
    (spelled : SpellsClauses kinds clauses) {before after : List TokenKind}
    (split : kinds = before ++ .keyword word :: after) :
    ∃ clause ∈ clauses, ∃ value rest, clause.assignment? = some (word, value) ∧
      after = .equal :: value :: rest := by
  have absent {front : List TokenKind} (plain : Unassigning front) : .keyword word ∉ front := by
    intro member
    have impossible := plain _ member
    rw [assignable] at impossible
    cases impossible
  induction spelled generalizing before with
  | nil =>
      have impossible := congrArg List.length split
      rw [List.length_append, List.length_cons, List.length_nil] at impossible
      omega
  | @cons front rest clause clauses head tail inductionHypothesis =>
      have later {before : List TokenKind} (split : rest = before ++ .keyword word :: after) :
          ∃ other ∈ clause :: clauses, ∃ value rest,
            other.assignment? = some (word, value) ∧ after = .equal :: value :: rest := by
        rcases inductionHypothesis split with ⟨other, member, found⟩
        exact ⟨other, List.mem_cons_of_mem clause member, found⟩
      have assigns := head.assignment
      cases isAssignment : clause.assignment? with
      | none =>
          rw [isAssignment] at assigns
          rcases split_after (absent assigns) split with ⟨before, splitRest⟩
          exact later splitRest
      | some assignment =>
          rw [isAssignment] at assigns
          rcases assigns with ⟨rfl, plain⟩
          cases before with
          | nil =>
              cases split
              exact ⟨clause, List.mem_cons_self, assignment.2, rest, isAssignment, rfl⟩
          | cons first before =>
              rcases split_after (absent plain) (List.cons.inj split).2 with ⟨before, splitRest⟩
              exact later splitRest

theorem assigned_of_clause (spelled : SpellsClauses kinds clauses) {value : TokenKind}
    {clause : Clause} (member : clause ∈ clauses)
    (assigns : clause.assignment? = some (word, value)) : Assigned kinds word value := by
  induction spelled with
  | nil => cases member
  | @cons front rest first clauses head tail inductionHypothesis =>
      rcases List.mem_cons.mp member with rfl | isLater
      · have whole := head.assignment
        rw [assigns] at whole
        rw [whole.1]
        exact (List.prefix_append _ rest).isInfix
      · exact (inductionHypothesis isLater).trans (List.suffix_append front rest).isInfix

/-- The assignments among the tokens are those of the clauses. -/
theorem assigned_iff (assignable : (TokenKind.keyword word).isAssignable = true)
    (spelled : SpellsClauses kinds clauses) {value : TokenKind} :
    Assigned kinds word value ↔
      ∃ clause ∈ clauses, clause.assignment? = some (word, value) := by
  constructor
  · rintro ⟨before, after, split⟩
    have found : kinds = before ++ .keyword word :: (.equal :: value :: after) := by
      rw [← split, List.append_assoc]
      rfl
    rcases clause_of_occurrence assignable spelled found with
      ⟨clause, member, other, rest, assigns, same⟩
    cases same
    exact ⟨clause, member, assigns⟩
  · rintro ⟨clause, member, assigns⟩
    exact assigned_of_clause spelled member assigns

theorem mentioned_iff (assignable : (TokenKind.keyword word).isAssignable = true)
    (spelled : SpellsClauses kinds clauses) :
    .keyword word ∈ kinds ↔ ∃ value, Assigned kinds word value := by
  constructor
  · intro mentioned
    rcases List.append_of_mem mentioned with ⟨before, after, split⟩
    rcases clause_of_occurrence assignable spelled split with
      ⟨clause, member, value, rest, assigns, -⟩
    exact ⟨value, (assigned_iff assignable spelled).mpr ⟨clause, member, assigns⟩⟩
  · rintro ⟨value, assigned⟩
    exact assigned.subset List.mem_cons_self

/-- The clauses of one name assign to the word; `token` is how their value is written. -/
structure Assigning {α : Type} (word : Keyword) (clause : α → Clause) (token : α → TokenKind) :
    Prop where
  assignable : (TokenKind.keyword word).isAssignable = true
  assigns : ∀ given kind, given.assignment? = some (word, kind) ↔
    ∃ value, given = clause value ∧ kind = token value
  named : ∀ value other, (clause value).name? = (clause other).name?
  injective : ∀ value other, clause value = clause other → value = other

theorem assigning_offset : Assigning .offset Clause.offset TokenKind.number where
  assignable := rfl
  assigns given kind := by cases given <;> simp [Clause.assignment?, eq_comm]
  named _ _ := rfl
  injective _ _ := Clause.offset.inj

theorem assigning_limit : Assigning .limit Clause.limit TokenKind.number where
  assignable := rfl
  assigns given kind := by cases given <;> simp [Clause.assignment?, eq_comm]
  named _ _ := rfl
  injective _ _ := Clause.limit.inj

theorem assigning_startDate :
    Assigning .startDate Clause.startDate fun moment => .string (moment.render .query) where
  assignable := rfl
  assigns given kind := by cases given <;> simp [Clause.assignment?, eq_comm]
  named _ _ := rfl
  injective _ _ := Clause.startDate.inj

theorem assigning_endDate :
    Assigning .endDate Clause.endDate fun moment => .string (moment.render .query) where
  assignable := rfl
  assigns given kind := by cases given <;> simp [Clause.assignment?, eq_comm]
  named _ _ := rfl
  injective _ _ := Clause.endDate.inj

/-- What the clauses say in the way of an assignment can be told from the tokens. -/
theorem Assigning.assigned_iff {α : Type} {clause : α → Clause} {token : α → TokenKind}
    {value? : Option α} (assigning : Assigning word clause token)
    (spelled : SpellsClauses kinds clauses) (compatible : Compatible clauses)
    (said : Says clauses clause value?) (kind : TokenKind) :
    Assigned kinds word kind ↔ ∃ value, value? = some value ∧ kind = token value := by
  rw [Query.assigned_iff assigning.assignable spelled]
  constructor
  · rintro ⟨given, member, isAssignment⟩
    rcases (assigning.assigns given kind).mp isAssignment with ⟨value, rfl, rfl⟩
    cases value? with
    | none => exact absurd member (said value)
    | some other =>
        have same := List.inj_on_of_nodup_map compatible.once said member
          (assigning.named other value)
        exact ⟨value, congrArg some (assigning.injective other value same), rfl⟩
  · rintro ⟨value, rfl, isToken⟩
    exact ⟨clause value, said, (assigning.assigns _ kind).mpr ⟨value, rfl, isToken⟩⟩

/-! ## Queries -/

/-- The number that a text assigns to a word, or zero if it does not mention the word. -/
def NumberOf (text : String) (word : Keyword) (value : Int) : Prop :=
  ∃ kinds, Shows text kinds ∧
    (Assigned kinds word (.number value) ∨ value = 0 ∧ .keyword word ∉ kinds)

/-- The string that a text assigns to a word. -/
def StringOf (text : String) (word : Keyword) (content : String) : Prop :=
  ∃ kinds, Shows text kinds ∧ Assigned kinds word (.string content)

theorem clauses_of_read {text : String} {query : Query} (success : read text = .ok query) :
    ∃ kinds clauses, (∀ other, Shows text other ↔ other = kinds) ∧ SpellsClauses kinds clauses ∧
      Compatible clauses ∧ Describes clauses query := by
  rw [read] at success
  split at success
  · cases success
  · rename_i tokens tokenized
    rw [ofTokens] at success
    split at success
    · cases success
    · rename_i clauses clausesRead
      rcases readClauses_eq_ok_iff.mp clausesRead with ⟨spelled, once⟩
      rcases finish_eq_ok_iff.mp success with ⟨grouped, same⟩
      refine ⟨kindsOf tokens, clauses, fun other => ?_, spelled, ⟨once, grouped⟩,
        (describes_iff once).mpr same⟩
      constructor
      · rintro ⟨found, tokenizedAgain, rfl⟩
        rw [tokenized] at tokenizedAgain
        cases tokenizedAgain
        rfl
      · rintro rfl
        exact ⟨tokens, tokenized, rfl⟩

theorem Assigning.numberOf_iff {text : String} {clause : Int → Clause} {number? : Option Int}
    (assigning : Assigning word clause .number) (shows : ∀ other, Shows text other ↔ other = kinds)
    (spelled : SpellsClauses kinds clauses) (compatible : Compatible clauses)
    (said : Says clauses clause number?) (value : Int) :
    NumberOf text word value ↔ value = number?.getD 0 := by
  have assigned := assigning.assigned_iff spelled compatible said
  have mentioned := mentioned_iff assigning.assignable spelled
  simp only [NumberOf, shows, exists_eq_left, mentioned, assigned]
  cases number? with
  | none => simp
  | some number => simp

theorem Assigning.stringOf_iff {text : String} {clause : Timestamp → Clause}
    {date? : Option Timestamp}
    (assigning : Assigning word clause fun moment => .string (moment.render .query))
    (shows : ∀ other, Shows text other ↔ other = kinds)
    (spelled : SpellsClauses kinds clauses) (compatible : Compatible clauses)
    (said : Says clauses clause date?) (content : String) :
    StringOf text word content ↔ date?.map (·.render .query) = some content := by
  have assigned := assigning.assigned_iff spelled compatible said
  simp only [StringOf, shows, exists_eq_left, assigned, Option.map_eq_some_iff,
    TokenKind.string.injEq]
  simp only [eq_comm]

/-- The page and the dates of a query are what its text assigns. -/
structure SaidBy (text : String) (query : Query) : Prop where
  offset : ∀ value, NumberOf text .offset value ↔ value = query.offset
  limit : ∀ value, NumberOf text .limit value ↔ value = query.limit
  startDate : ∀ content, StringOf text .startDate content ↔
    query.startDate.map (·.render .query) = some content
  endDate : ∀ content, StringOf text .endDate content ↔
    query.endDate.map (·.render .query) = some content

theorem saidBy_of_read {text : String} {query : Query} (success : read text = .ok query) :
    SaidBy text query := by
  rcases clauses_of_read success with ⟨kinds, clauses, shows, spelled, compatible, described⟩
  rcases described.offset with ⟨offset?, saidOffset, isOffset⟩
  rcases described.limit with ⟨limit?, saidLimit, isLimit⟩
  refine ⟨?_, ?_, ?_, ?_⟩
  · rw [isOffset]
    exact assigning_offset.numberOf_iff shows spelled compatible saidOffset
  · rw [isLimit]
    exact assigning_limit.numberOf_iff shows spelled compatible saidLimit
  · exact assigning_startDate.stringOf_iff shows spelled compatible described.startDate
  · exact assigning_endDate.stringOf_iff shows spelled compatible described.endDate

/-! ## Numerals that are too large -/

/-- A whole run of digits whose value cannot be held, with any leading zeros. -/
structure LargeNumeral (digits after : List Char) : Prop where
  nonempty : digits ≠ []
  areDigits : ∀ digit ∈ digits, digit.isDigit = true
  large : Nat.pow 2 63 ≤ decimalValue digits
  ends : ∀ c ∈ after.head?, c.isDigit = false

theorem LargeNumeral.scan {digits after : List Char} (numeral : LargeNumeral digits after)
    (position : Nat) :
    (Scan.ofChars position (digits ++ after)).error? =
      some (.located (.numberOutOfRange (String.ofList digits))
        ⟨position, position + byteLength digits⟩) := by
  rcases numeral with ⟨nonempty, areDigits, large, ends⟩
  have excessive : ¬ decimalValue digits ≤ maxNumber := by
    intro fits
    have bound : maxNumber < Nat.pow 2 63 := by decide
    omega
  cases digits with
  | nil => exact absurd rfl nonempty
  | cons c digits =>
      rcases next_of_digit (areDigits c List.mem_cons_self) with ⟨noLayout, isNumeral⟩
      rcases takeWhile_dropWhile_append areDigits ends with ⟨taken, dropped⟩
      have next : Lexeme.next c (digits ++ after) =
          ⟨.error (.numberOutOfRange (String.ofList (c :: digits))), c :: digits, after⟩ := by
        rw [isNumeral, ← List.cons_append, Lexeme.numeral, taken, dropped]
        simp only [if_neg excessive]
      rw [List.cons_append, Scan.ofChars, noLayout]
      simp only [Bool.false_eq_true, if_false, next]

/-- A number that is too large makes a text no query, whatever it is assigned to and whatever
comes before and after. -/
theorem LargeNumeral.read {text : String} {kinds : List TokenKind} {word : Keyword}
    {front digits after : List Char} (numeral : LargeNumeral digits after)
    (parts : text.toList = front ++ (digits ++ after))
    (laidOut : LaidOut none (kinds ++ [.keyword word, .equal]) front) :
    Query.read text = .error (.located (.numberOutOfRange (String.ofList digits))
      ⟨byteLength front, byteLength front + byteLength digits⟩) := by
  have endsAtSign : ∀ last ∈ (kinds ++ [TokenKind.keyword word, .equal]).getLast?,
      EndsBefore last (digits ++ after) := by
    intro last isLast
    rw [List.getLast?_append] at isLast
    cases isLast
    exact fun _ _ => rfl
  have scanned := scan_after_laidOut laidOut endsAtSign 0
  rw [numeral.scan, Nat.zero_add] at scanned
  rw [Query.read, tokenize, Scan.ofText, parts, Scan.result, scanned]

end Query
end TestQuery
