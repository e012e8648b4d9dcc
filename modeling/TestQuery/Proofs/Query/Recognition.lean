import TestQuery.Proofs.Query.Grammar
import TestQuery.Proofs.Reader
import TestQuery.Proofs.Timestamp
import TestQuery.Query.Reading

namespace TestQuery
namespace Query

open Text

/-!
# Readers recognize the grammar

A reader recognizes phrases if it takes one from the front of the tokens whenever
it succeeds, and succeeds wherever one is followed by tokens that cannot belong to
it.  Two phrases can go on: a tag may be compared with a value, and a chain may
have a further link.  No clause begins with a comparison or a connective, so in a
sentence neither goes on by mistake.
-/

def kindsOf (tokens : List Token) : List TokenKind :=
  tokens.map Token.kind

/-- What a reader takes is a phrase, and it takes each phrase that is followed by
something that ends it. -/
structure Recognizes {α : Type} (reader : TokenReader α) (phrase : List TokenKind → α → Prop)
    (ends : List Token → Prop) : Prop where
  sound : ∀ {tokens rest : List Token} {value : α}, reader.run tokens = .ok (value, rest) →
    ∃ front, tokens = front ++ rest ∧ phrase (kindsOf front) value
  complete : ∀ {front rest : List Token} {value : α}, phrase (kindsOf front) value → ends rest →
    reader.run (front ++ rest) = .ok (value, rest)

def anything (_ : List Token) : Prop := True

def NoComparison (rest : List Token) : Prop :=
  ∀ token ∈ rest.head?, token.kind.equality? = none

def NoContinuation (rest : List Token) : Prop :=
  NoComparison rest ∧ ∀ token ∈ rest.head?, token.kind.connective? = none

namespace Recognizes

variable {α β : Type}

/-! ## Putting readers together -/

theorem congr {reader : TokenReader α} {phrase other : List TokenKind → α → Prop}
    {ends : List Token → Prop} (recognized : Recognizes reader phrase ends)
    (same : ∀ kinds value, phrase kinds value ↔ other kinds value) :
    Recognizes reader other ends where
  sound success := by
    rcases recognized.sound success with ⟨front, split, spelled⟩
    exact ⟨front, split, (same _ _).mp spelled⟩
  complete spelled ended := recognized.complete ((same _ _).mpr spelled) ended

theorem refuse (refusal : SyntaxError) (ends : List Token → Prop) :
    Recognizes (Reader.refuse refusal : TokenReader α) (fun _ _ => False) ends where
  sound success := by cases success
  complete := by
    intro front rest value impossible
    exact impossible.elim

theorem pure (result : α) :
    Recognizes (pure result : TokenReader α) (fun kinds value => kinds = [] ∧ value = result)
      anything where
  sound success := by
    cases success
    exact ⟨[], rfl, rfl, rfl⟩
  complete := by
    rintro front rest value ⟨empty, rfl⟩ -
    rw [List.map_eq_nil_iff.mp empty]
    rfl

/-- One phrase after another. -/
theorem bind {first : TokenReader α} {next : α → TokenReader β}
    {phrase : List TokenKind → α → Prop} {following : α → List TokenKind → β → Prop}
    {ends : List Token → Prop} (firstRecognized : Recognizes first phrase anything)
    (nextRecognized : ∀ value, Recognizes (next value) (following value) ends) :
    Recognizes (first >>= next)
      (fun kinds result => ∃ front rest value, kinds = front ++ rest ∧ phrase front value ∧
        following value rest result) ends where
  sound success := by
    rcases Reader.run_bind_eq_ok_iff.mp success with ⟨value, middle, firstRun, nextRun⟩
    rcases firstRecognized.sound firstRun with ⟨front, rfl, spelled⟩
    rcases (nextRecognized value).sound nextRun with ⟨back, rfl, spelledBack⟩
    refine ⟨front ++ back, (List.append_assoc _ _ _).symm, kindsOf front, kindsOf back, value, ?_,
      spelled, spelledBack⟩
    exact List.map_append
  complete := by
    rintro tokens rest result ⟨front, back, value, split, spelled, spelledBack⟩ ended
    rcases List.map_eq_append_iff.mp split with ⟨frontTokens, backTokens, rfl, rfl, rfl⟩
    rw [List.append_assoc]
    exact Reader.run_bind_eq_ok_iff.mpr ⟨value, backTokens ++ rest,
      firstRecognized.complete spelled trivial, (nextRecognized value).complete spelledBack ended⟩

/-! ## Single tokens -/

theorem expect {expected : Expected} {accept : Token → Option α} (meaning : TokenKind → Option α)
    (same : ∀ token, accept token = meaning token.kind) :
    Recognizes (expect expected accept).toReader
      (fun kinds value => ∃ kind, kinds = [kind] ∧ meaning kind = some value) anything where
  sound := by
    intro tokens rest value success
    cases tokens with
    | nil => cases success
    | cons token following =>
        rw [Query.expect, Reader.run_symbol_cons, same] at success
        cases meant : meaning token.kind with
        | none =>
            rw [meant] at success
            cases success
        | some found =>
            rw [meant] at success
            cases success
            exact ⟨[token], rfl, token.kind, rfl, meant⟩
  complete := by
    rintro front rest value ⟨kind, single, meant⟩ -
    rcases List.map_eq_singleton_iff.mp single with ⟨token, rfl, rfl⟩
    rw [List.singleton_append, Query.expect, Reader.run_symbol_cons, same, meant]
    rfl

theorem expectKind (expected : Expected) (kind : TokenKind) :
    Recognizes (expectKind expected kind).toReader (fun kinds _ => kinds = [kind]) anything := by
  refine (Recognizes.expect (fun found => if found = kind then some () else none)
    (fun token => rfl)).congr ?_
  intro kinds value
  constructor
  · rintro ⟨found, rfl, meant⟩
    split at meant
    · rename_i same
      rw [same]
    · cases meant
  · rintro rfl
    exact ⟨kind, rfl, if_pos rfl⟩

theorem equality :
    Recognizes equality.toReader (fun kinds comparison => kinds = [comparisonKind comparison])
      anything := by
  refine (Recognizes.expect TokenKind.equality? (fun token => rfl)).congr ?_
  intro kinds comparison
  constructor
  · rintro ⟨kind, rfl, meant⟩
    cases kind <;> cases meant <;> rfl
  · rintro rfl
    exact ⟨_, rfl, by cases comparison <;> rfl⟩

/-- A string that can be converted. -/
theorem valueOf (convert : String → Except SyntaxFault α) :
    Recognizes (valueOf convert).toReader
      (fun kinds value => ∃ text, kinds = [.string text] ∧ convert text = .ok value)
      anything where
  sound := by
    intro tokens rest value success
    rcases Reader.run_bind_eq_ok_iff.mp success with ⟨⟨text, span⟩, middle, taken, converted⟩
    cases tokens with
    | nil => cases taken
    | cons token following =>
        rw [stringToken, Query.expect, Reader.run_symbol_cons] at taken
        rcases token with ⟨kind, place⟩
        cases kind with
        | string content =>
            cases taken
            cases outcome : convert text with
            | error fault =>
                simp only [Reader.run_lift, outcome] at converted
                cases converted
            | ok found =>
                simp only [Reader.run_lift, outcome] at converted
                cases converted
                exact ⟨[⟨.string text, place⟩], rfl, text, rfl, outcome⟩
        | _ => cases taken
  complete := by
    rintro front rest value ⟨text, single, converted⟩ -
    rcases List.map_eq_singleton_iff.mp single with ⟨⟨kind, span⟩, rfl, same⟩
    cases same
    refine Reader.run_bind_eq_ok_iff.mpr ⟨(text, span), rest, rfl, ?_⟩
    simp only [Reader.run_lift, converted]
    rfl

/-! ## Values -/

theorem textValue : Recognizes textValue.toReader SpellsText anything := by
  refine (Recognizes.valueOf .ok).congr ?_
  intro kinds value
  constructor
  · rintro ⟨text, rfl, converted⟩
    cases converted
    exact .text value
  · rintro ⟨⟩
    exact ⟨value, rfl, rfl⟩

def UuidText (kinds : List TokenKind) (id : Uuid) : Prop :=
  ∃ text, kinds = [.string text] ∧ Uuid.ofText? text.toList = some id

theorem uuidValue (field : IdField) :
    Recognizes (uuidValue field).toReader UuidText anything := by
  refine (Recognizes.valueOf _).congr ?_
  intro kinds id
  apply exists_congr
  intro text
  apply and_congr_right
  intro _
  cases Uuid.ofText? text.toList with
  | none => exact ⟨nofun, nofun⟩
  | some found => exact ⟨fun same => by cases same; rfl, fun same => by cases same; rfl⟩

theorem ofName?_eq_some_iff {text : String} {outcome : Status} :
    Status.ofName? text = some outcome ↔ text = outcome.name := by
  constructor
  · intro found
    rw [Status.ofName?] at found
    have named := List.find?_some found
    exact (beq_iff_eq.mp named).symm
  · rintro rfl
    cases outcome <;> rfl

def StatusText (kinds : List TokenKind) (outcome : Status) : Prop :=
  kinds = [.string outcome.name]

theorem statusValue : Recognizes statusValue.toReader StatusText anything := by
  refine (Recognizes.valueOf _).congr ?_
  intro kinds outcome
  constructor
  · rintro ⟨text, rfl, converted⟩
    split at converted
    · rename_i found named
      cases converted
      rw [StatusText, ofName?_eq_some_iff.mp named]
    · cases converted
  · intro spelled
    refine ⟨outcome.name, spelled, ?_⟩
    rw [ofName?_eq_some_iff.mpr rfl]

def TagText (kinds : List TokenKind) (tag : String) : Prop :=
  kinds = [.string tag] ∧ tag ≠ ""

theorem tagValue : Recognizes tagValue.toReader TagText anything := by
  refine (Recognizes.valueOf _).congr ?_
  intro kinds tag
  constructor
  · rintro ⟨text, rfl, converted⟩
    split at converted
    · cases converted
    · rename_i named
      cases converted
      exact ⟨rfl, named⟩
  · rintro ⟨rfl, named⟩
    exact ⟨tag, rfl, if_neg named⟩

theorem dateValue :
    Recognizes dateValue.toReader (fun kinds moment => kinds = [.string (moment.render .query)])
      anything := by
  refine (Recognizes.valueOf _).congr ?_
  intro kinds moment
  constructor
  · rintro ⟨text, rfl, converted⟩
    split at converted
    · rename_i found read
      cases converted
      rw [Timestamp.read?_eq_some_iff.mp read]
    · cases converted
  · rintro rfl
    refine ⟨moment.render .query, rfl, ?_⟩
    rw [Timestamp.read?_eq_some_iff.mpr rfl]

/-! ## Predicates -/

/-- A phrase that nothing can prolong is ended by anything. -/
theorem anywhere {reader : TokenReader α} {phrase : List TokenKind → α → Prop}
    (recognized : Recognizes reader phrase anything) (ends : List Token → Prop) :
    Recognizes reader phrase ends where
  sound := recognized.sound
  complete spelled _ := recognized.complete spelled trivial

def ComparedTo (phrase : List TokenKind → α → Prop) (build : Equality → α → Predicate)
    (kinds : List TokenKind) (result : Predicate) : Prop :=
  ∃ comparison rest found, kinds = comparisonKind comparison :: rest ∧ phrase rest found ∧
    result = build comparison found

theorem compared {value : TokenReader α} {phrase : List TokenKind → α → Prop}
    (recognized : Recognizes value phrase anything) (build : Equality → α → Predicate) :
    Recognizes (do
        let comparison ← Query.equality.toReader
        let found ← value
        return build comparison found)
      (ComparedTo phrase build) anything := by
  refine (equality.bind fun comparison =>
    recognized.bind fun found => Recognizes.pure (build comparison found)).congr ?_
  intro kinds result
  constructor
  · rintro ⟨front, back, comparison, rfl, rfl, rest, none, found, rfl, spelled, rfl, rfl⟩
    exact ⟨comparison, rest, found, by rw [List.append_nil]; rfl, spelled, rfl⟩
  · rintro ⟨comparison, rest, found, rfl, spelled, rfl⟩
    exact ⟨[comparisonKind comparison], rest, comparison, rfl, rfl, rest, [], found,
      (List.append_nil rest).symm, spelled, rfl, rfl⟩

/-- A tag stands alone unless a comparison follows it. -/
theorem tagComparison (tag : String) :
    Recognizes (tagComparison tag)
      (fun kinds result => kinds = [] ∧ result = .tagged .equal tag ∨
        ∃ comparison value, kinds = [comparisonKind comparison, .string value] ∧
          result = .taggedWith comparison tag value)
      NoComparison := by
  have valued := compared textValue fun comparison value => .taggedWith comparison tag value
  have alone {tokens : List Token} (plain : tokens.head?.bind (·.kind.equality?) = none) :
      (Query.tagComparison tag).run tokens = .ok (.tagged .equal tag, tokens) := by
    rw [Query.tagComparison, Reader.run_bind, Reader.run_peek]
    dsimp only
    rw [plain]
    rfl
  have compares {tokens : List Token} {comparison : Equality}
      (begins : tokens.head?.bind (·.kind.equality?) = some comparison) :
      (Query.tagComparison tag).run tokens = (do
        let comparison ← Query.equality.toReader
        let value ← Query.textValue.toReader
        return Predicate.taggedWith comparison tag value : TokenReader Predicate).run tokens := by
    rw [Query.tagComparison, Reader.run_bind, Reader.run_peek]
    dsimp only
    rw [begins]
  constructor
  · intro tokens rest result success
    cases next : tokens.head?.bind (·.kind.equality?) with
    | none =>
        cases (alone next).symm.trans success
        exact ⟨[], rfl, .inl ⟨rfl, rfl⟩⟩
    | some comparison =>
        rw [compares next] at success
        rcases valued.sound success with ⟨front, split, comparison, back, value, kinds, ⟨⟩, same⟩
        exact ⟨front, split, .inr ⟨comparison, value, kinds, same⟩⟩
  · rintro front rest result (⟨empty, rfl⟩ | ⟨comparison, value, spelled, rfl⟩) ended
    · rw [List.map_eq_nil_iff.mp empty, List.nil_append]
      apply alone
      cases rest with
      | nil => rfl
      | cons token rest => exact ended token rfl
    · rcases List.map_eq_cons_iff.mp spelled with ⟨token, others, rfl, same, -⟩
      have begins : ((token :: others ++ rest).head?.bind (·.kind.equality?)) =
          some comparison := by
        rw [List.cons_append, List.head?_cons, Option.bind_some, same]
        cases comparison <;> rfl
      rw [compares begins]
      exact valued.complete ⟨comparison, [.string value], value, spelled, .text value, rfl⟩ trivial

def PredicateRest : TokenKind → List TokenKind → Predicate → Prop
  | .keyword .sessionId => ComparedTo UuidText .session
  | .keyword .id => ComparedTo UuidText .testcase
  | .keyword .status => ComparedTo StatusText .status
  | .keyword .name => ComparedTo SpellsText (.text .name)
  | .keyword .classname => ComparedTo SpellsText (.text .classname)
  | .keyword .testsuite => ComparedTo SpellsText (.text .testsuite)
  | .keyword .file => ComparedTo SpellsText (.text .file)
  | .hash => fun kinds result => ∃ tag rest, kinds = .string tag :: rest ∧ tag ≠ "" ∧
      (rest = [] ∧ result = .tagged .equal tag ∨
        ∃ comparison value, rest = [comparisonKind comparison, .string value] ∧
          result = .taggedWith comparison tag value)
  | .bang => fun kinds result => ∃ tag, kinds = [.hash, .string tag] ∧ tag ≠ "" ∧
      result = .tagged .notEqual tag
  | _ => fun _ _ => False

theorem predicateRest_of_spells {kind : TokenKind} {kinds : List TokenKind} {result : Predicate}
    (spelled : SpellsPredicate (kind :: kinds) result) : PredicateRest kind kinds result := by
  cases spelled with
  | session comparison accepted => exact ⟨comparison, _, _, rfl, ⟨_, rfl, accepted⟩, rfl⟩
  | testcase comparison accepted => exact ⟨comparison, _, _, rfl, ⟨_, rfl, accepted⟩, rfl⟩
  | text field comparison value =>
      cases field <;> exact ⟨comparison, _, value, rfl, .text value, rfl⟩
  | status comparison outcome => exact ⟨comparison, _, outcome, rfl, rfl, rfl⟩
  | tagged named => exact ⟨_, [], rfl, named, .inl ⟨rfl, rfl⟩⟩
  | untagged named => exact ⟨_, rfl, named, rfl⟩
  | taggedWith named comparison value =>
      exact ⟨_, _, rfl, named, .inr ⟨comparison, value, rfl, rfl⟩⟩

theorem spells_of_predicateRest {kind : TokenKind} {kinds : List TokenKind} {result : Predicate}
    (following : PredicateRest kind kinds result) : SpellsPredicate (kind :: kinds) result := by
  unfold PredicateRest at following
  split at following
  · rcases following with ⟨comparison, rest, id, rfl, ⟨text, rfl, accepted⟩, rfl⟩
    exact .session comparison accepted
  · rcases following with ⟨comparison, rest, id, rfl, ⟨text, rfl, accepted⟩, rfl⟩
    exact .testcase comparison accepted
  · rcases following with ⟨comparison, rest, outcome, rfl, rfl, rfl⟩
    exact .status comparison outcome
  · rcases following with ⟨comparison, rest, value, rfl, ⟨⟩, rfl⟩
    exact .text .name comparison value
  · rcases following with ⟨comparison, rest, value, rfl, ⟨⟩, rfl⟩
    exact .text .classname comparison value
  · rcases following with ⟨comparison, rest, value, rfl, ⟨⟩, rfl⟩
    exact .text .testsuite comparison value
  · rcases following with ⟨comparison, rest, value, rfl, ⟨⟩, rfl⟩
    exact .text .file comparison value
  · rcases following with ⟨tag, rest, rfl, named, ⟨rfl, rfl⟩ | ⟨comparison, value, rfl, rfl⟩⟩
    · exact .tagged named
    · exact .taggedWith named comparison value
  · rcases following with ⟨tag, rfl, named, rfl⟩
    exact .untagged named
  · exact following.elim

theorem predicateAfter (first : Token) :
    Recognizes (predicateAfter first)
      (fun kinds result => SpellsPredicate (first.kind :: kinds) result)
      NoComparison := by
  suffices Recognizes (Query.predicateAfter first) (PredicateRest first.kind) NoComparison from
    this.congr fun _ _ => ⟨spells_of_predicateRest, predicateRest_of_spells⟩
  rcases first with ⟨kind, span⟩
  cases kind with
  | keyword word =>
      cases word with
      | sessionId => exact (compared (uuidValue .sessionId) .session).anywhere _
      | id => exact (compared (uuidValue .id) .testcase).anywhere _
      | status => exact (compared statusValue .status).anywhere _
      | name => exact (compared textValue (.text .name)).anywhere _
      | classname => exact (compared textValue (.text .classname)).anywhere _
      | testsuite => exact (compared textValue (.text .testsuite)).anywhere _
      | file => exact (compared textValue (.text .file)).anywhere _
      | _ => exact refuse _ _
  | hash =>
      refine (tagValue.bind tagComparison).congr ?_
      intro kinds result
      constructor
      · rintro ⟨front, rest, tag, rfl, ⟨rfl, named⟩, following⟩
        exact ⟨tag, rest, rfl, named, following⟩
      · rintro ⟨tag, rest, rfl, named, following⟩
        exact ⟨[.string tag], rest, tag, rfl, ⟨rfl, named⟩, following⟩
  | bang =>
      refine ((expectKind .hash .hash).bind fun _ => tagValue.bind fun tag =>
        Recognizes.pure (Predicate.tagged .notEqual tag)).congr ?_ |>.anywhere _
      intro kinds result
      constructor
      · rintro ⟨front, rest, taken, rfl, rfl, tagKinds, none, tag, rfl, ⟨rfl, named⟩, rfl, rfl⟩
        exact ⟨tag, rfl, named, rfl⟩
      · rintro ⟨tag, rfl, named, rfl⟩
        exact ⟨[.hash], [.string tag], (), rfl, rfl, [.string tag], [], tag, rfl, ⟨rfl, named⟩,
          rfl, rfl⟩
  | _ => exact refuse _ _

theorem predicate : Recognizes predicate.toReader SpellsPredicate NoComparison := by
  have run (token : Token) (following : List Token) :
      Query.predicate.run (token :: following) = (Query.predicateAfter token).run following := rfl
  constructor
  · intro tokens rest result success
    cases tokens with
    | nil => cases success
    | cons token following =>
        rw [run] at success
        rcases (predicateAfter token).sound success with ⟨front, rfl, spelled⟩
        exact ⟨token :: front, rfl, spelled⟩
  · intro front rest result spelled ended
    cases front with
    | nil => cases spelled
    | cons token following =>
        rw [List.cons_append, run]
        exact (predicateAfter token).complete spelled ended

/-! ## Chains -/

theorem connective?_eq_some_iff {kind : TokenKind} {connective : Connective} :
    kind.connective? = some connective ↔ kind = connectiveKind connective := by
  constructor
  · intro found
    rw [TokenKind.connective?.eq_def] at found
    split at found
    · cases found
      rfl
    · cases found
      rfl
    · cases found
  · rintro rfl
    cases connective <;> rfl

/-- Where links end and no comparison follows, none begins with one. -/
theorem noComparison_links {front rest : List Token} {links : List Link}
    (spelled : SpellsLinks (kindsOf front) links) (ended : NoComparison rest) :
    NoComparison (front ++ rest) := by
  cases front with
  | nil => exact ended
  | cons token following =>
      intro next isNext
      cases isNext
      generalize whole : kindsOf (token :: following) = kinds at spelled
      cases spelled with
      | nil => cases whole
      | cons connective head tail =>
          rw [(List.cons.inj whole).1]
          cases connective <;> rfl

theorem links : Recognizes (Reader.many linkAfter) SpellsLinks NoContinuation := by
  constructor
  · intro tokens rest links success
    have repeated := Reader.manyRun_eq_ok_iff.mp success
    induction repeated with
    | stop ends => exact ⟨[], rfl, .nil⟩
    | @step token following middle rest body link others begins bodyRun repeated
        inductionHypothesis =>
        rcases Option.map_eq_some_iff.mp begins with ⟨connective, isConnective, rfl⟩
        rcases Reader.run_bind_eq_ok_iff.mp bodyRun with ⟨next, between, predicateRun, done⟩
        cases done
        rcases predicate.sound predicateRun with ⟨front, rfl, spelled⟩
        rcases inductionHypothesis (Reader.manyRun_eq_ok_iff.mpr repeated) with ⟨back, rfl, tail⟩
        refine ⟨token :: (front ++ back), by rw [List.cons_append, List.append_assoc], ?_⟩
        have whole := SpellsLinks.cons connective spelled tail
        rw [← connective?_eq_some_iff.mp isConnective] at whole
        rw [kindsOf, List.map_cons, List.map_append]
        exact whole
  · intro front rest links spelled ended
    apply Reader.manyRun_eq_ok_iff.mpr
    -- the derivation is about kinds, the run about tokens: each step splits both alike
    generalize whole : kindsOf front = kinds at spelled
    induction spelled generalizing front with
    | nil =>
        rw [List.map_eq_nil_iff.mp whole]
        exact .stop fun token member => by
          rw [linkAfter, ended.2 token member]
          rfl
    | @cons connective headKinds tailKinds next links head tail inductionHypothesis =>
        rcases List.map_eq_cons_iff.mp whole with ⟨token, following, rfl, isConnective, split⟩
        rcases List.map_eq_append_iff.mp split with ⟨headTokens, tailTokens, rfl, rfl, same⟩
        have begins := connective?_eq_some_iff.mpr isConnective
        have later := noComparison_links (same ▸ tail) ended.1
        have isItem : linkAfter token = some (do
            let next ← Query.predicate.toReader
            return ⟨connective, some next⟩) := by
          rw [linkAfter, begins]
          rfl
        rw [List.cons_append, List.append_assoc]
        exact .step isItem (Reader.run_bind_of_ok (predicate.complete head later))
          (inductionHypothesis same)

theorem chainAfter (first : Token) :
    Recognizes (chainAfter first)
      (fun kinds chain => ∃ front rest head links, kinds = front ++ rest ∧
        SpellsPredicate (first.kind :: front) head ∧ SpellsLinks rest links ∧
        chain = ⟨.and, some head⟩ :: links) NoContinuation := by
  constructor
  · intro tokens rest chain success
    rcases Reader.run_bind_eq_ok_iff.mp success with ⟨head, middle, headRun, afterHead⟩
    rcases Reader.run_bind_eq_ok_iff.mp afterHead with ⟨others, between, othersRun, done⟩
    cases done
    rcases (predicateAfter first).sound headRun with ⟨front, rfl, spelled⟩
    rcases links.sound othersRun with ⟨back, rfl, spelledOthers⟩
    exact ⟨front ++ back, (List.append_assoc _ _ _).symm, kindsOf front, kindsOf back, head, others,
      List.map_append, spelled, spelledOthers, rfl⟩
  · rintro tokens rest chain ⟨front, back, head, others, split, spelled, spelledOthers, rfl⟩ ended
    rcases List.map_eq_append_iff.mp split with ⟨frontTokens, backTokens, rfl, rfl, rfl⟩
    have later := noComparison_links spelledOthers ended.1
    rw [List.append_assoc]
    exact (Reader.run_bind_of_ok ((predicateAfter first).complete spelled later)).trans
      (Reader.run_bind_of_ok (links.complete spelledOthers ended))

/-! ## Lists -/

/-- Whether a key is the session, by its first token. -/
def keyIsSession? : TokenKind → Option Bool
  | .keyword .sessionId => some true
  | .hash => some false
  | _ => none

def KeyRest (isSession : Bool) (kinds : List TokenKind) (key : GroupKey) : Prop :=
  if isSession then kinds = [] ∧ key = .session
  else ∃ tag, TagText kinds tag ∧ key = .tag tag

theorem groupKey : Recognizes groupKey.toReader SpellsKey anything := by
  have next (isSession : Bool) : Recognizes
      (if isSession then return .session
        else do
          let tag ← Query.tagValue.toReader
          return .tag tag : TokenReader GroupKey)
      (KeyRest isSession) anything := by
    cases isSession with
    | true => exact Recognizes.pure GroupKey.session
    | false =>
        refine (tagValue.bind fun tag => Recognizes.pure (GroupKey.tag tag)).congr ?_
        intro kinds key
        constructor
        · rintro ⟨front, none, tag, rfl, spelled, rfl, rfl⟩
          exact ⟨tag, by rw [List.append_nil]; exact spelled, rfl⟩
        · rintro ⟨tag, spelled, rfl⟩
          exact ⟨kinds, [], tag, (List.append_nil kinds).symm, spelled, rfl, rfl⟩
  refine ((Recognizes.expect keyIsSession? fun token => rfl).bind next).congr ?_
  intro kinds key
  constructor
  · rintro ⟨front, rest, isSession, rfl, ⟨kind, rfl, isColumn⟩, rests⟩
    cases isSession with
    | true =>
        rcases rests with ⟨rfl, rfl⟩
        have isWord : kind = .keyword .sessionId := by
          rw [keyIsSession?.eq_def] at isColumn
          split at isColumn
          · rfl
          · cases isColumn
          · cases isColumn
        rw [isWord]
        exact .session
    | false =>
        rcases rests with ⟨tag, ⟨rfl, named⟩, rfl⟩
        have isHash : kind = .hash := by
          rw [keyIsSession?.eq_def] at isColumn
          split at isColumn
          · cases isColumn
          · rfl
          · cases isColumn
        rw [isHash]
        exact .tag named
  · intro spelled
    cases spelled with
    | session => exact ⟨[.keyword .sessionId], [], true, rfl, ⟨_, rfl, rfl⟩, rfl, rfl⟩
    | @tag tag named =>
        exact ⟨[.hash], [.string tag], false, rfl, ⟨_, rfl, rfl⟩, tag, ⟨rfl, named⟩, rfl⟩

/-- Whether another item follows, by the token after an item. -/
def another? : TokenKind → Option Bool
  | .comma => some true
  | .rightParen => some false
  | _ => none

theorem anotherItem :
    Recognizes anotherItem.toReader
      (fun kinds more => kinds = [if more then .comma else .rightParen]) anything := by
  refine (Recognizes.expect another? fun token => rfl).congr ?_
  intro kinds more
  constructor
  · rintro ⟨kind, rfl, isMark⟩
    rw [another?.eq_def] at isMark
    split at isMark
    · cases isMark
      rfl
    · cases isMark
      rfl
    · cases isMark
  · rintro rfl
    cases more with
    | true => exact ⟨.comma, rfl, rfl⟩
    | false => exact ⟨.rightParen, rfl, rfl⟩

/-- Items with commas between them, up to the closing parenthesis. -/
theorem separated {item : TokenConsumer α} {phrase : List TokenKind → α → Prop}
    (recognized : Recognizes item.toReader phrase anything) :
    Recognizes (Reader.separated item Query.anotherItem.toReader).toReader
      (fun kinds values => ∃ inner, kinds = inner ++ [.rightParen] ∧
        SpellsList phrase inner values) anything := by
  constructor
  · intro tokens rest values success
    have run := Reader.separatedRun_eq_ok_iff.mp success
    clear success
    induction run with
    | last itemRun ends =>
        rcases recognized.sound itemRun with ⟨front, rfl, spelled⟩
        rcases anotherItem.sound ends with ⟨closing, rfl, closes⟩
        refine ⟨front ++ closing, (List.append_assoc _ _ _).symm, kindsOf front, ?_, .last spelled⟩
        rw [kindsOf, List.map_append]
        exact congrArg (kindsOf front ++ ·) closes
    | more itemRun continues others inductionHypothesis =>
        rcases recognized.sound itemRun with ⟨front, rfl, spelled⟩
        rcases anotherItem.sound continues with ⟨comma, rfl, isComma⟩
        rcases inductionHypothesis with ⟨back, rfl, inner, ends, tail⟩
        refine ⟨front ++ (comma ++ back), by simp only [List.append_assoc],
          kindsOf front ++ .comma :: inner, ?_, .more spelled tail⟩
        have commaKinds : kindsOf comma = [.comma] := isComma
        simp only [kindsOf, List.map_append] at ends commaKinds ⊢
        rw [ends, commaKinds]
        simp only [List.append_assoc, List.cons_append, List.nil_append]
  · rintro tokens rest values ⟨inner, whole, spelled⟩ -
    apply Reader.separatedRun_eq_ok_iff.mpr
    induction spelled generalizing tokens with
    | last spelled =>
        rcases List.map_eq_append_iff.mp whole with ⟨front, closing, rfl, rfl, closes⟩
        rw [List.append_assoc]
        exact .last (recognized.complete spelled trivial) (anotherItem.complete closes trivial)
    | more spelled tail inductionHypothesis =>
        rw [List.append_assoc, List.cons_append] at whole
        rcases List.map_eq_append_iff.mp whole with ⟨front, following, rfl, rfl, split⟩
        rcases List.map_eq_cons_iff.mp split with ⟨comma, back, rfl, isComma, ends⟩
        have marked : kindsOf [comma] = [if true then .comma else .rightParen] :=
          congrArg (fun kind => [kind]) isComma
        have continues : Query.anotherItem.run (comma :: (back ++ rest)) =
            .ok (true, back ++ rest) :=
          anotherItem.complete marked trivial
        rw [List.append_assoc]
        exact .more (recognized.complete spelled trivial) continues (inductionHypothesis ends)

end Recognizes

end Query
end TestQuery
