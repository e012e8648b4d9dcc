import TestQuery.Console
import Mathlib.Data.List.DropRight

namespace TestQuery

/-!
# The memory of a console

Whatever lines a console is given, its state can be told from the words of those lines.
The dialect, the purpose and the owner are the last ones that a line has set, queries are
shown after an odd number of `:ast` lines, and the names of the tables are never touched.
Plans are always written with the settings that the state shows.  All other lines leave
the state as it is, and only `:quit` and `:q` end the dialogue.
-/

/-! ## Words -/

namespace Text

theorem wordsAfter_cons (run : List Char) (c : Char) (rest : List Char) :
    wordsAfter run (c :: rest) =
      if isBlank c then
        if run.isEmpty then wordsAfter [] rest else run.reverse :: wordsAfter [] rest
      else wordsAfter (c :: run) rest := by
  cases run <;> rfl

theorem wordsAfter_of_blank {gap : List Char} (blank : ∀ c ∈ gap, isBlank c = true) :
    wordsAfter [] gap = [] := by
  induction gap with
  | nil => rfl
  | cons c gap inductionHypothesis =>
      rcases List.forall_mem_cons.mp blank with ⟨first, others⟩
      rw [wordsAfter_cons, if_pos first]
      exact inductionHypothesis others

/-- Blanks before a text do not change its words. -/
theorem words_append_left {gap : List Char} (blank : ∀ c ∈ gap, isBlank c = true)
    (text : List Char) : words (gap ++ text) = words text := by
  induction gap with
  | nil => rfl
  | cons c gap inductionHypothesis =>
      rcases List.forall_mem_cons.mp blank with ⟨first, others⟩
      rw [List.cons_append, words, wordsAfter_cons, if_pos first]
      exact inductionHypothesis others

/-- Blanks after a text do not change its words. -/
theorem wordsAfter_append_right {gap : List Char} (blank : ∀ c ∈ gap, isBlank c = true)
    (run text : List Char) : wordsAfter run (text ++ gap) = wordsAfter run text := by
  induction text generalizing run with
  | nil =>
      cases run with
      | nil => exact wordsAfter_of_blank blank
      | cons last run =>
          cases gap with
          | nil => rfl
          | cons c gap =>
              rcases List.forall_mem_cons.mp blank with ⟨first, others⟩
              rw [List.nil_append, wordsAfter_cons, if_pos first, wordsAfter_of_blank others]
              rfl
  | cons c text inductionHypothesis =>
      rw [List.cons_append, wordsAfter_cons, wordsAfter_cons, inductionHypothesis,
        inductionHypothesis]

theorem words_strip (text : List Char) : words (strip text) = words text := by
  let body := text.dropWhile isBlank
  have front : ∀ c ∈ text.takeWhile isBlank, isBlank c = true :=
    fun c member => List.mem_takeWhile_imp member
  have back : ∀ c ∈ body.rtakeWhile isBlank, isBlank c = true :=
    fun c member => List.mem_rtakeWhile_imp member
  calc
    words (strip text) = words (strip text ++ body.rtakeWhile isBlank) :=
      (wordsAfter_append_right back [] _).symm
    _ = words body := congrArg words List.rdropWhile_append_rtakeWhile
    _ = words (text.takeWhile isBlank ++ body) := (words_append_left front _).symm
    _ = words text := congrArg words List.takeWhile_append_dropWhile

/-- A run that has begun is the front of the next word. -/
theorem begins_wordsAfter (last : Char) (run text : List Char) :
    ∃ tail others, wordsAfter (last :: run) text = ((last :: run).reverse ++ tail) :: others := by
  induction text generalizing last run with
  | nil => exact ⟨[], [], by rw [List.append_nil]; rfl⟩
  | cons c text inductionHypothesis =>
      rw [wordsAfter_cons]
      split
      · exact ⟨[], wordsAfter [] text, by rw [List.append_nil]; rfl⟩
      · rcases inductionHypothesis c (last :: run) with ⟨tail, others, rest⟩
        refine ⟨c :: tail, others, ?_⟩
        rw [rest, List.reverse_cons, List.append_assoc]
        rfl

/-- A stripped text begins with its first word. -/
theorem words_of_strip {text : List Char} {c : Char} {rest : List Char}
    (stripped : strip text = c :: rest) :
    ∃ tail others, words text = (c :: tail) :: others := by
  have begins : (text.dropWhile isBlank).head? = some c := by
    rcases List.rdropWhile_prefix isBlank (text.dropWhile isBlank) with ⟨back, whole⟩
    change strip text ++ back = _ at whole
    rw [← whole, stripped]
    rfl
  have noBlank : isBlank c = false := by
    have stops := List.head?_dropWhile_not isBlank text
    rwa [begins] at stops
  rw [← words_strip, stripped, words, wordsAfter_cons,
    if_neg (Bool.eq_false_iff.mp noBlank)]
  exact begins_wordsAfter c [] rest

end Text

namespace Console

def wordsOf (line : String) : List String :=
  (Text.words line.toList).map String.ofList

/-- The first word marks the line as a command. -/
def IsCommand (words : List String) : Prop :=
  ∃ first ∈ words.head?, first.toList.head? = some ':'

/-- A line is a command with its words, or it is none and neither are its words. -/
theorem ofText_cases (line : String) :
    Line.ofText line = .command (.ofWords (wordsOf line)) ∨
      ¬ IsCommand (wordsOf line) ∧
        (Line.ofText line = .blank ∨ ∃ text, Line.ofText line = .query text) := by
  have noCommand {c : Char} {tail : List Char} {others : List (List Char)} (noColon : c ≠ ':')
      (words : Text.words line.toList = (c :: tail) :: others) : ¬ IsCommand (wordsOf line) := by
    rw [wordsOf, words]
    rintro ⟨first, ⟨⟩, colon⟩
    rw [String.toList_ofList] at colon
    exact noColon (Option.some.inj colon)
  rw [Line.ofText]
  split
  next stripped =>
    refine .inr ⟨?_, .inl rfl⟩
    rw [wordsOf, ← Text.words_strip, stripped]
    rintro ⟨first, ⟨⟩, -⟩
  next rest stripped =>
    rw [← stripped, Text.words_strip]
    exact .inl rfl
  next text notEmpty noColon =>
    rcases stripped : Text.strip line.toList with _ | ⟨c, rest⟩
    · exact absurd stripped notEmpty
    · rcases Text.words_of_strip stripped with ⟨tail, others, words⟩
      exact .inr ⟨noCommand (fun colon => noColon rest (colon ▸ stripped)) words, .inr ⟨_, rfl⟩⟩

/-! ## What a line sets -/

/-- The argument of a command, if the words are that command with an argument. -/
def argument (name : String) : List String → Option String
  | first :: word :: _ => if first = name then some word else none
  | _ => none

def dialectSet (words : List String) : Option Sql.Dialect :=
  (argument ":dialect" words).bind Sql.Dialect.ofName?

def purposeSet (words : List String) : Option Query.Purpose :=
  (argument ":type" words).bind Query.Purpose.ofName?

def ownerSet (words : List String) : Option Uuid :=
  (argument ":owner" words).bind fun word => (Uuid.read word).toOption

/-- The words turn the showing of queries on or off. -/
def toggles (words : List String) : Bool :=
  words.head? == some ":ast"

def quits (words : List String) : Bool :=
  words.head? == some ":quit" || words.head? == some ":q"

/-- The state once a line with these words has been taken in. -/
def told (console : Console) (words : List String) : Console :=
  { settings :=
      { console.settings with dialect := (dialectSet words).getD console.settings.dialect }
    target := ((dialectSet words).map fun dialect =>
      { console.settings with dialect := dialect }).getD console.target
    purpose := (purposeSet words).getD console.purpose
    owner := (ownerSet words).getD console.owner
    showsQuery := xor (toggles words) console.showsQuery }

/-- The words set nothing. -/
structure Idle (words : List String) : Prop where
  dialect : dialectSet words = none
  purpose : purposeSet words = none
  owner : ownerSet words = none
  shows : toggles words = false
  stays : quits words = false

theorem told_of_idle {words : List String} (idle : Idle words) (console : Console) :
    console.told words = console := by
  rw [told, idle.dialect, idle.purpose, idle.owner, idle.shows]
  simp

/-- Only the command itself, with a second word, has the argument. -/
theorem argument_of_forall {name : String} {words : List String}
    (other : ∀ word rest, words = name :: word :: rest → False) : argument name words = none := by
  fun_cases argument name words with
  | case1 word rest => exact absurd rfl (other word rest)
  | case2 => rfl
  | case3 => rfl

theorem argument_of_head {name : String} {words : List String} (other : words.head? ≠ some name) :
    argument name words = none := by
  apply argument_of_forall
  rintro word rest rfl
  exact other rfl

theorem idle_of_argument {words : List String}
    (arguments : ∀ name ∈ [":dialect", ":type", ":owner"], argument name words = none)
    (shows : toggles words = false) (stays : quits words = false) : Idle words := by
  refine ⟨?_, ?_, ?_, shows, stays⟩
  · rw [dialectSet, arguments ":dialect" (by decide)]
    rfl
  · rw [purposeSet, arguments ":type" (by decide)]
    rfl
  · rw [ownerSet, arguments ":owner" (by decide)]
    rfl

/-- Words with another beginning set nothing. -/
theorem idle_of_head {words : List String} (other : ∀ first ∈ words.head?,
    first ∉ [":dialect", ":type", ":owner", ":ast", ":quit", ":q"]) : Idle words := by
  have isNot {name : String}
      (listed : name ∈ [":dialect", ":type", ":owner", ":ast", ":quit", ":q"]) :
      words.head? ≠ some name := fun same => other name same listed
  apply idle_of_argument
  · intro name listed
    exact argument_of_head (isNot (List.mem_append_left [":ast", ":quit", ":q"] listed))
  · exact beq_false_of_ne (isNot (by decide))
  · rw [quits, beq_false_of_ne (isNot (by decide)), beq_false_of_ne (isNot (by decide))]
    rfl

/-- What is no command sets nothing. -/
theorem idle_of_not_isCommand {words : List String} (noCommand : ¬ IsCommand words) :
    Idle words := by
  apply idle_of_head
  intro first isFirst listed
  apply noCommand
  refine ⟨first, isFirst, ?_⟩
  simp only [List.mem_cons, List.not_mem_nil, or_false] at listed
  rcases listed with rfl | rfl | rfl | rfl | rfl | rfl <;> rfl

/-! ## One line -/

/-- A command does to the state what its words say. -/
theorem perform_told (console : Console) {words : List String} (stays : quits words = false) :
    (console.perform (.ofWords words)).1 = console.told words := by
  have planning {name : String} (rest : List String)
      (other : name ∉ [":dialect", ":type", ":owner", ":ast", ":quit", ":q"]) :
      console.told (name :: rest) = console := by
    apply told_of_idle
    apply idle_of_head
    rintro first ⟨⟩
    exact other
  fun_cases Command.ofWords words with
  | case1 rest => cases stays
  | case2 rest => cases stays
  | case3 word rest =>
      cases named : Query.Purpose.ofName? word <;>
        simp [perform, told, dialectSet, purposeSet, ownerSet, toggles, argument, named]
  | case4 word rest =>
      cases named : Sql.Dialect.ofName? word <;>
        simp [perform, told, dialectSet, purposeSet, ownerSet, toggles, argument, named]
  | case5 word rest =>
      cases named : Uuid.read word <;>
        simp [perform, told, dialectSet, purposeSet, ownerSet, toggles, argument, named,
          Except.toOption]
  | case6 rest =>
      have name {other : String} (differs : ":ast" ≠ other) :
          argument other (":ast" :: rest) = none :=
        argument_of_head fun same => differs (Option.some.inj same)
      simp [perform, told, dialectSet, purposeSet, ownerSet, toggles, name]
  | case7 rest => exact (planning rest (by decide)).symm
  | case8 word rest =>
      rw [planning _ (by decide), perform]
      cases Uuid.read word <;> rfl
  | case9 word rest =>
      rw [planning _ (by decide), perform]
      cases Uuid.read word <;> rfl
  | case10 _ _ _ noPurpose noDialect noOwner noToggle _ _ _ =>
      have idle : Idle words := by
        apply idle_of_argument
        · rw [List.forall_mem_cons, List.forall_mem_cons, List.forall_mem_singleton]
          exact ⟨argument_of_forall noDialect, argument_of_forall noPurpose,
            argument_of_forall noOwner⟩
        · apply beq_false_of_ne
          intro shows
          rcases List.head?_eq_some_iff.mp shows with ⟨rest, isToggle⟩
          exact noToggle rest isToggle
        · exact stays
      exact (told_of_idle idle console).symm

theorem ofWords_eq_quit_iff (words : List String) :
    Command.ofWords words = .quit ↔ quits words = true := by
  constructor
  · fun_cases Command.ofWords words with
    | case1 | case2 => exact fun _ => rfl
    | _ => nofun
  · intro ends
    rcases Bool.or_eq_true_iff.mp ends with quit | quit
    all_goals
      rcases List.head?_eq_some_iff.mp (beq_iff_eq.mp quit) with ⟨rest, rfl⟩
      rw [Command.ofWords]

/-- What a line does to the state. -/
theorem step_told (console : Console) (line : String) :
    (console.step line).1 =
      if quits (wordsOf line) then none else some (console.told (wordsOf line)) := by
  rw [step]
  rcases ofText_cases line with isCommand | ⟨noCommand, isBlank | ⟨text, isQuery⟩⟩
  · rw [isCommand]
    cases ends : quits (wordsOf line) with
    | true => rw [(ofWords_eq_quit_iff _).mpr ends, if_pos rfl]
    | false =>
        rw [← perform_told console ends, if_neg Bool.false_ne_true]
        split
        next blank => cases blank
        next quit =>
          rw [Line.command.injEq, ofWords_eq_quit_iff, ends] at quit
          cases quit
        next command _ same =>
          cases same
          rfl
        next query => cases query
  · have idle := idle_of_not_isCommand noCommand
    rw [isBlank, idle.stays, told_of_idle idle]
    rfl
  · have idle := idle_of_not_isCommand noCommand
    rw [isQuery, idle.stays, told_of_idle idle]
    rfl

/-- The lines that are to leave the state as it is. -/
inductive Passive : List String → Prop where
  /-- A blank line. -/
  | blank : Passive []
  /-- A query, whatever comes of it. -/
  | query {first : String} {rest : List String} (noColon : first.toList.head? ≠ some ':') :
      Passive (first :: rest)
  /-- A command that only plans. -/
  | planning {first : String} {rest : List String}
      (name : first ∈ [":all", ":testcase", ":session"]) : Passive (first :: rest)
  | unknown {first : String} {rest : List String}
      (name : first ∉ [":quit", ":q", ":type", ":dialect", ":owner", ":ast", ":all", ":testcase",
        ":session"]) : Passive (first :: rest)
  /-- A command without the argument that it needs. -/
  | incomplete {first : String} (name : first ∈ [":type", ":dialect", ":owner"]) : Passive [first]
  | noPurpose {word : String} {rest : List String} (refused : Query.Purpose.ofName? word = none) :
      Passive (":type" :: word :: rest)
  | noDialect {word : String} {rest : List String} (refused : Sql.Dialect.ofName? word = none) :
      Passive (":dialect" :: word :: rest)
  | noOwner {word : String} {rest : List String} {refusal : Uuid.Refusal}
      (refused : Uuid.read word = .error refusal) : Passive (":owner" :: word :: rest)

theorem idle_of_passive {words : List String} (passive : Passive words) : Idle words := by
  cases passive with
  | blank => exact idle_of_head nofun
  | @query first rest noColon =>
      apply idle_of_not_isCommand
      rintro ⟨same, ⟨⟩, colon⟩
      exact noColon colon
  | @planning first rest name =>
      apply idle_of_head
      rintro same ⟨⟩
      simp only [List.mem_cons, List.not_mem_nil, or_false] at name
      rcases name with rfl | rfl | rfl <;> decide
  | @unknown first rest name =>
      apply idle_of_head
      rintro same ⟨⟩ listed
      apply name
      simp only [List.mem_cons, List.not_mem_nil, or_false] at listed ⊢
      tauto
  | @incomplete first name =>
      simp only [List.mem_cons, List.not_mem_nil, or_false] at name
      rcases name with rfl | rfl | rfl <;>
        exact idle_of_argument (fun name _ => rfl) (by decide) (by decide)
  | noPurpose refused | noDialect refused | noOwner refused =>
      constructor <;>
        simp [dialectSet, purposeSet, ownerSet, toggles, quits, argument, refused, Except.toOption]

theorem step_of_passive {line : String} (passive : Passive (wordsOf line)) (console : Console) :
    (console.step line).1 = some console := by
  have idle := idle_of_passive passive
  rw [step_told, idle.stays, told_of_idle idle]
  rfl

/-! ## Many lines -/

/-- The state after some lines, unless they end the dialogue. -/
def after (console : Console) (lines : List String) : Option Console :=
  lines.foldlM (fun state line => (state.step line).1) console

theorem after_cons (console : Console) (line : String) (lines : List String) :
    console.after (line :: lines) = (console.step line).1.bind (·.after lines) :=
  List.foldlM_cons

theorem after_concat (console : Console) (lines : List String) (line : String) :
    console.after (lines ++ [line]) =
      (console.after lines).bind fun state => (state.step line).1 := by
  simp [after]

/-- Only a line that says so ends a dialogue. -/
theorem after_eq_none_iff (console : Console) (lines : List String) :
    console.after lines = none ↔ ∃ line ∈ lines, quits (wordsOf line) = true := by
  induction lines generalizing console with
  | nil => simp [after]
  | cons line lines inductionHypothesis =>
      rw [after_cons, step_told]
      cases ends : quits (wordsOf line) with
      | true => simp [ends]
      | false => simp [ends, inductionHypothesis]

/-- What lines show, together with what the lines after them show. -/
theorem converse_append (console : Console) (lines more : List String) :
    console.converse (lines ++ more) =
      console.converse lines ++ (console.after lines).elim [] (·.converse more) := by
  induction lines generalizing console with
  | nil => rfl
  | cons line lines inductionHypothesis =>
      rw [List.cons_append, converse, converse, after_cons]
      rcases console.step line with ⟨_ | next, shown⟩
      · exact (List.append_nil shown).symm
      · change shown ++ next.converse (lines ++ more) = _
        rw [inductionHypothesis, ← List.append_assoc]
        rfl

/-- The value that lines have set last. -/
def lastSet {α : Type} (setting : List String → Option α) (initial : α) (lines : List String) : α :=
  (lines.filterMap fun line => setting (wordsOf line)).getLastD initial

theorem lastSet_concat {α : Type} (setting : List String → Option α) (initial : α)
    (lines : List String) (line : String) :
    lastSet setting initial (lines ++ [line]) =
      (setting (wordsOf line)).getD (lastSet setting initial lines) := by
  rw [lastSet, List.filterMap_append]
  cases found : setting (wordsOf line) with
  | none => simp [found, lastSet]
  | some value => simp [found]

/-- The state is what the lines have told a console with these settings. -/
structure Remembers (settings : Settings) (lines : List String) (state : Console) : Prop where
  inStep : state.target = state.settings
  tables : state.settings.tables = settings.tables
  dialect : state.settings.dialect = lastSet dialectSet settings.dialect lines
  purpose : state.purpose = lastSet purposeSet .testcases lines
  owner : state.owner = lastSet ownerSet .nil lines
  shows : state.showsQuery = true ↔ (lines.countP fun line => toggles (wordsOf line)) % 2 = 1

theorem remembers_nil (settings : Settings) : Remembers settings [] (opened settings) := by
  constructor <;> simp [opened, lastSet]

/-- A line that is taken in is remembered with the lines before it. -/
theorem Remembers.told {settings : Settings} {lines : List String} {state : Console}
    (remembers : Remembers settings lines state) (line : String) :
    Remembers settings (lines ++ [line]) (state.told (wordsOf line)) := by
  constructor
  · rw [Console.told]
    cases dialectSet (wordsOf line) with
    | none => exact remembers.inStep
    | some dialect => rfl
  · exact remembers.tables
  · rw [lastSet_concat, ← remembers.dialect]
    rfl
  · rw [lastSet_concat, ← remembers.purpose]
    rfl
  · rw [lastSet_concat, ← remembers.owner]
    rfl
  · have before := remembers.shows
    rw [List.countP_append, List.countP_singleton]
    change xor (toggles (wordsOf line)) state.showsQuery = true ↔ _
    cases toggles (wordsOf line) with
    | false => simpa using before
    | true =>
        rw [if_pos rfl, Bool.true_xor, Bool.not_eq_true', ← Bool.not_eq_true, before]
        omega

theorem remembers_of_after {settings : Settings} {lines : List String} {state : Console}
    (reached : (opened settings).after lines = some state) : Remembers settings lines state := by
  -- from the last line back, since the last line that sets something wins
  induction lines using List.reverseRecOn generalizing state with
  | nil =>
      cases reached
      exact remembers_nil settings
  | append_singleton lines line inductionHypothesis =>
      rw [after_concat] at reached
      rcases Option.bind_eq_some_iff.mp reached with ⟨before, fromBefore, isNext⟩
      rw [step_told] at isNext
      split at isNext
      · cases isNext
      · cases isNext
        exact (inductionHypothesis fromBefore).told line

/-- The state of a console is told by the words of its lines.  Lines that are to leave it
alone do so, and the dialogue goes on until a line ends it. -/
theorem state_told_by_lines (settings : Settings) (lines : List String) :
    ((opened settings).after lines = none ↔ ∃ line ∈ lines, quits (wordsOf line) = true) ∧
    (∀ state, (opened settings).after lines = some state → Remembers settings lines state) ∧
    (∀ line, Passive (wordsOf line) → ∀ state : Console, (state.step line).1 = some state) ∧
    (∀ more, dialogue settings (lines ++ more) =
      dialogue settings lines ++ ((opened settings).after lines).elim [] (·.converse more)) := by
  refine ⟨after_eq_none_iff _ lines, ?_, ?_, ?_⟩
  · intro state reached
    exact remembers_of_after reached
  · intro line passive state
    exact step_of_passive passive state
  · intro more
    rw [dialogue, dialogue, converse_append, List.append_assoc]

/-- A dialect is set, queries are to be shown, and a dialect is refused. -/
theorem state_told_by_lines_dialect :
    ∃ state, (opened {}).after [":dialect mysql", ":ast", ":dialect x"] = some state ∧
      state.target.dialect = .mysql ∧ state.showsQuery = true ∧
      (state.step ":dialect x").1 = some state := by
  rcases state_told_by_lines {} [":dialect mysql", ":ast", ":dialect x"] with
    ⟨ends, remembered, passive, -⟩
  have goesOn : (opened {}).after [":dialect mysql", ":ast", ":dialect x"] ≠ none := by
    rw [Ne, ends]
    decide
  rcases Option.ne_none_iff_exists.mp goesOn with ⟨state, reached⟩
  have remembers := remembered state reached.symm
  have words : wordsOf ":dialect x" = [":dialect", "x"] := by decide
  refine ⟨state, reached.symm, ?_, ?_, ?_⟩
  · rw [remembers.inStep, remembers.dialect]
    decide
  · rw [remembers.shows]
    decide
  · apply passive
    rw [words]
    exact .noDialect rfl

end Console
end TestQuery
