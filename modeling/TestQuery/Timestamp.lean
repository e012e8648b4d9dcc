import TestQuery.Text

namespace TestQuery

/-!
# Timestamps

A timestamp is a second of the proleptic Gregorian calendar in the years 0000
to 9999, without a zone.  Second 60 stands for a leap second and is kept as it
was written, at whatever minute.
-/

namespace Timestamp

/-- Is the year a leap year?  Year 0 is one. -/
def isLeapYear (year : Nat) : Bool :=
  year % 4 == 0 && (year % 100 != 0 || year % 400 == 0)

/-- The number of days of a month; there is no month but those from 1 to 12. -/
def daysInMonth (year : Nat) : (month : Nat) → Nat
  | 2 => if isLeapYear year then 29 else 28
  | 4 | 6 | 9 | 11 => 30
  | 1 | 3 | 5 | 7 | 8 | 10 | 12 => 31
  | _ => 0

/-- The fields name an existing day and a time of day. -/
def Valid (year month day hour minute second : Nat) : Prop :=
  year ≤ 9999 ∧ 1 ≤ day ∧ day ≤ daysInMonth year month ∧ hour ≤ 23 ∧ minute ≤ 59 ∧ second ≤ 60

instance (year month day hour minute second : Nat) :
    Decidable (Valid year month day hour minute second) := by
  unfold Valid
  infer_instance

end Timestamp

/-- A date and a time of day that exist. -/
structure Timestamp where
  year : Nat
  month : Nat
  day : Nat
  hour : Nat
  minute : Nat
  second : Nat
  valid : Timestamp.Valid year month day hour minute second
deriving DecidableEq

namespace Timestamp

/-- The timestamp with the given fields, if there is one. -/
def ofFields? (year month day hour minute second : Nat) : Option Timestamp :=
  if valid : Valid year month day hour minute second then
    some ⟨year, month, day, hour, minute, second, valid⟩
  else none

/-- The characters that part the fields of a written timestamp; a colon parts
those of the time. -/
structure Marks where
  /-- Between year, month and day. -/
  date : Char
  /-- Between the date and the time. -/
  middle : Char

/-- Timestamps in queries: `2025/03/01 10:00:00`. -/
def Marks.query : Marks := ⟨'/', ' '⟩

/-- Timestamps bound as parameters: `2025-03-01 10:00:00`. -/
def Marks.parameter : Marks := ⟨'-', ' '⟩

/-- Timestamps in documents: `2025-03-01T10:00:00`. -/
def Marks.document : Marks := ⟨'-', 'T'⟩

/-- The nineteen characters of a timestamp, every field padded with zeros. -/
def written (marks : Marks) (moment : Timestamp) : List Char :=
  Text.paddedDigits 4 moment.year ++ [marks.date] ++ Text.paddedDigits 2 moment.month ++
    [marks.date] ++ Text.paddedDigits 2 moment.day ++ [marks.middle] ++
    Text.paddedDigits 2 moment.hour ++ [':'] ++ Text.paddedDigits 2 moment.minute ++ [':'] ++
    Text.paddedDigits 2 moment.second

def render (marks : Marks) (moment : Timestamp) : String :=
  String.ofList (moment.written marks)

/-- Read nineteen characters as a timestamp. -/
def ofWritten? (marks : Marks) : List Char → Option Timestamp
  | [y₁, y₂, y₃, y₄, p₁, m₁, m₂, p₂, d₁, d₂, p₃, h₁, h₂, p₄, n₁, n₂, p₅, s₁, s₂] =>
    if [y₁, y₂, y₃, y₄, m₁, m₂, d₁, d₂, h₁, h₂, n₁, n₂, s₁, s₂].all Char.isDigit ∧
        [p₁, p₂, p₃, p₄, p₅] = [marks.date, marks.date, marks.middle, ':', ':'] then
      ofFields? (Text.decimalValue [y₁, y₂, y₃, y₄]) (Text.decimalValue [m₁, m₂])
        (Text.decimalValue [d₁, d₂]) (Text.decimalValue [h₁, h₂]) (Text.decimalValue [n₁, n₂])
        (Text.decimalValue [s₁, s₂])
    else none
  | _ => none

def read? (marks : Marks) (text : String) : Option Timestamp :=
  ofWritten? marks text.toList

end Timestamp

end TestQuery
