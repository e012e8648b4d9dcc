namespace TestQuery
namespace Sql

/-!
# Dialects

The databases that statements are written for.  They differ in the character
that encloses names, in how the place of a parameter is marked, and in whether
UUIDs are values of their own or sixteen bytes.
-/

/-- A database. -/
inductive Dialect where
  | postgres
  | mysql
  | sqlite
deriving DecidableEq, Repr

namespace Dialect

def all : List Dialect :=
  [.postgres, .mysql, .sqlite]

def name : Dialect → String
  | .postgres => "postgres"
  | .mysql => "mysql"
  | .sqlite => "sqlite"

/-- The dialect with exactly this name. -/
def ofExactName? (name : String) : Option Dialect :=
  all.find? fun dialect => dialect.name == name

/-- The dialect that a word names, in any case. -/
def ofName? (word : String) : Option Dialect :=
  match String.ofList (word.toList.map Char.toLower) with
  | "postgres" | "postgresql" => some .postgres
  | "mysql" => some .mysql
  | "sqlite" => some .sqlite
  | _ => none

/-- The wording for a word that names no dialect. -/
def unknownName (word : String) : String :=
  "unknown dialect '" ++ String.ofList (word.toList.map Char.toLower) ++
    "', expected postgres, mysql or sqlite"

/-- The character that encloses names. -/
def quote : Dialect → Char
  | .mysql => '\x60'
  | _ => '"'

/-- A name in quotes.  A quote inside the name is written twice, all else as it
is. -/
def quoteName (dialect : Dialect) (name : List Char) : List Char :=
  dialect.quote ::
    (name.flatMap (fun c => if c = dialect.quote then [c, c] else [c]) ++ [dialect.quote])

/-- The mark of the parameter with the given number, counted from one. -/
def placeholder : Dialect → Nat → List Char
  | .postgres, number => '$' :: Nat.toDigits 10 number
  | _, _ => ['?']

end Dialect

end Sql
end TestQuery
