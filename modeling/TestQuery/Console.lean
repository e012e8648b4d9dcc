import TestQuery.Json.Writer
import TestQuery.Plan.Lookup
import TestQuery.Query.Document
import TestQuery.Query.Reading
import TestQuery.Text

namespace TestQuery

/-!
# The console

A dialogue by lines.  A line that begins with a colon is a command, which may
change what later lines are planned for; any other line is a query, whose plan is
shown.  Blank lines are passed over.
-/

/-- What lines are planned for. -/
structure Console where
  /-- The settings as commands have left them. -/
  settings : Settings
  /-- The settings that plans are written with. -/
  target : Settings := settings
  purpose : Query.Purpose := .testcases
  owner : Uuid := .nil
  /-- Show the query itself before its plan. -/
  showsQuery : Bool := false
deriving DecidableEq

namespace Console

/-! ## Commands -/

/-- The records that can be looked up. -/
inductive Lookup where
  | testcase
  | session
deriving DecidableEq, Repr

inductive Command where
  | quit
  /-- Set the purpose that a word names. -/
  | purpose (word : String)
  /-- Set the dialect that a word names. -/
  | dialect (word : String)
  /-- Set the owner. -/
  | owner (word : String)
  /-- Show queries, or no longer show them. -/
  | toggleQuery
  /-- Plan the query for everything. -/
  | everything
  /-- Plan a lookup by id. -/
  | lookup (record : Lookup) (word : String)
  | help
deriving DecidableEq, Repr

/-- The command of a line, by its first two words.  What is no command asks for
help. -/
def Command.ofWords : List String → Command
  | ":quit" :: _ | ":q" :: _ => .quit
  | ":type" :: word :: _ => .purpose word
  | ":dialect" :: word :: _ => .dialect word
  | ":owner" :: word :: _ => .owner word
  | ":ast" :: _ => .toggleQuery
  | ":all" :: _ => .everything
  | ":testcase" :: word :: _ => .lookup .testcase word
  | ":session" :: word :: _ => .lookup .session word
  | _ => .help

inductive Line where
  | blank
  | command (command : Command)
  | query (text : String)
deriving DecidableEq, Repr

/-- What a line is, once the blanks around it are gone. -/
def Line.ofText (text : String) : Line :=
  match Text.strip text.toList with
  | [] => .blank
  | ':' :: rest => .command (.ofWords ((Text.words (':' :: rest)).map String.ofList))
  | stripped => .query (String.ofList stripped)

/-! ## Texts -/

def banner : String :=
  "--- Greener 查询语言到 SQL 编译器 ---"

def help : List String := [
  "命令:",
  "  :type testcases|sessions|groups   切换查询类型",
  "  :dialect postgres|mysql|sqlite    切换 SQL 方言",
  "  :owner <uuid>                     设置查询所属用户",
  "  :all                              编译空查询（匹配全部记录）",
  "  :testcase <uuid> | :session <uuid> 编译单条记录查询",
  "  :ast                              切换是否打印 AST",
  "  :quit                             退出"]

def complaint (reason : String) : String :=
  "✗ " ++ reason

/-- A word that should have been a UUID. -/
def badUuid (refusal : Uuid.Refusal) : String :=
  complaint ("无效的 UUID: " ++ refusal.message)

/-- A number in at least two places. -/
def aligned (number : Nat) : String :=
  let digits := Nat.toDigits 10 number
  String.ofList (List.replicate (2 - digits.length) ' ' ++ digits)

/-- The values of a plan, numbered from one. -/
def valueLines (plan : Plan) : List String :=
  plan.values.mapIdx fun index value => "  " ++ aligned (index + 1) ++ ": " ++ value.describe

def planLines (plan : Plan) : List String :=
  ["[SQL]:", plan.sql, "[参数]:"] ++ valueLines plan

/-- An error, and where it is if that is known. -/
def errorLines (error : Query.Error) : List String :=
  complaint error.message ::
    match error.span? with
    | some span => [s!"  位置 {span.start}-{span.stop}"]
    | none => []

def outcomeLines : Except Query.Error Plan → List String
  | .ok plan => planLines plan
  | .error error => errorLines error

/-! ## Steps -/

/-- Plan a query for the current target, owner and purpose. -/
def plan (console : Console) (query : Query) : Except Query.Error Plan :=
  Plan.ofQuery console.target console.owner query console.purpose

def checkedPlan (console : Console) (query : Query) : Except Query.Error Plan := do
  (query.check console.purpose).mapError .unsuitable
  console.plan query

/-- Show a query, where that is wanted. -/
def queryLines (console : Console) (query : Query) : List String :=
  if console.showsQuery then ["[AST]:", query.toJson.pretty] else []

/-- Read, check and plan a query. -/
def runQuery (console : Console) (text : String) : List String :=
  match Query.read text with
  | .error error => errorLines (.malformed error)
  | .ok query => console.queryLines query ++ outcomeLines (console.checkedPlan query)

def lookupPlan (console : Console) (id : Uuid) : Lookup → Plan
  | .testcase => Plan.testcaseLookup console.target console.owner id
  | .session => Plan.sessionLookup console.target console.owner id

/-- Carry out a command other than the last.  Gives what is shown. -/
def perform (console : Console) : Command → Console × List String
  | .quit => (console, [])
  | .purpose word =>
    match Query.Purpose.ofName? word with
    | some purpose => ({ console with purpose := purpose }, ["查询类型: " ++ purpose.name])
    | none => (console, [complaint (Query.Purpose.unknownName word)])
  | .dialect word =>
    match Sql.Dialect.ofName? word with
    | some dialect =>
      let settings := { console.settings with dialect := dialect }
      ({ console with settings := settings, target := settings }, ["SQL 方言: " ++ dialect.name])
    | none => (console, [complaint (Sql.Dialect.unknownName word)])
  | .owner word =>
    match Uuid.read word with
    | .ok owner => ({ console with owner := owner }, ["用户: " ++ owner.toString])
    | .error refusal => (console, [badUuid refusal])
  | .toggleQuery =>
    let shows := !console.showsQuery
    ({ console with showsQuery := shows }, ["打印 AST: " ++ (if shows then "开" else "关")])
  | .everything => (console, outcomeLines (console.plan {}))
  | .lookup record word =>
    match Uuid.read word with
    | .ok id => (console, planLines (console.lookupPlan id record))
    | .error refusal => (console, [badUuid refusal])
  | .help => (console, help)

/-- What follows a line: the state for the next line, unless the dialogue is over,
and what is shown. -/
def step (console : Console) (line : String) : Option Console × List String :=
  match Line.ofText line with
  | .blank => (some console, [])
  | .command .quit => (none, [])
  | .command command =>
    let (next, shown) := console.perform command
    (some next, shown)
  | .query text => (some console, console.runQuery text)

/-- What is shown for lines of input. -/
def converse (console : Console) : List String → List String
  | [] => []
  | line :: lines =>
    match console.step line with
    | (none, shown) => shown
    | (some next, shown) => shown ++ next.converse lines

def greeting : List String :=
  banner :: help

/-- The console before the first line. -/
def opened (settings : Settings) : Console :=
  { settings := settings }

def dialogue (settings : Settings) (lines : List String) : List String :=
  greeting ++ (opened settings).converse lines

end Console

end TestQuery
