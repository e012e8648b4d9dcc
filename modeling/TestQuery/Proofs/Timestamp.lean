import TestQuery.Proofs.Text
import TestQuery.Timestamp

namespace TestQuery

/-!
# Written timestamps

A timestamp has one written form, and reading accepts that form only: nineteen
characters, every field padded to its width.  In a query this is `YYYY/MM/DD HH:MM:SS`, for the
days that the Gregorian calendar has; the calendar is given here by the lengths of its months.
-/

namespace Timestamp

open Text

/-! ## Written forms -/

theorem ofFields?_eq_some {year month day hour minute second : Nat} {moment : Timestamp}
    (found : ofFields? year month day hour minute second = some moment) :
    moment.year = year ∧ moment.month = month ∧ moment.day = day ∧ moment.hour = hour ∧
      moment.minute = minute ∧ moment.second = second := by
  rw [ofFields?] at found
  split at found
  · cases found
    exact ⟨rfl, rfl, rfl, rfl, rfl, rfl⟩
  · cases found

theorem ofFields?_fields (moment : Timestamp) :
    ofFields? moment.year moment.month moment.day moment.hour moment.minute moment.second =
      some moment :=
  dif_pos moment.valid

/-- There are at most twelve months, since every other month has no days. -/
theorem month_le (moment : Timestamp) : moment.month ≤ 12 := by
  have day := moment.valid.2
  apply Nat.le_of_not_lt
  intro tooLarge
  have none : daysInMonth moment.year moment.month = 0 := by
    rw [daysInMonth] <;> omega
  omega

theorem day_le (moment : Timestamp) : moment.day ≤ 31 := by
  have day := moment.valid.2.2.1
  have most : daysInMonth moment.year moment.month ≤ 31 := by
    rw [daysInMonth.eq_def]
    split
    · split <;> omega
    all_goals omega
  omega

/-- A written timestamp is read as the timestamp that it was written for. -/
theorem ofWritten?_written (marks : Marks) (moment : Timestamp) :
    ofWritten? marks (moment.written marks) = some moment := by
  rcases moment.valid with ⟨year, -, -, hour, minute, second⟩
  have month := moment.month_le
  have day := moment.day_le
  have fourDigits := isDigit_paddedDigits 4 moment.year
  have twoDigits := isDigit_paddedDigits 2
  have yearValue : decimalValue (paddedDigits 4 moment.year) = moment.year :=
    decimalValue_paddedDigits (Nat.lt_of_le_of_lt year (by decide))
  have value {field bound : Nat} (limit : field ≤ bound) (fits : bound < 10 ^ 2) :
      decimalValue (paddedDigits 2 field) = field :=
    decimalValue_paddedDigits (Nat.lt_of_le_of_lt limit fits)
  have digits : (paddedDigits 4 moment.year ++ paddedDigits 2 moment.month ++
      paddedDigits 2 moment.day ++ paddedDigits 2 moment.hour ++ paddedDigits 2 moment.minute ++
      paddedDigits 2 moment.second).all Char.isDigit = true := by
    simp only [List.all_append, List.all_eq_true.mpr fourDigits,
      List.all_eq_true.mpr (twoDigits _), Bool.and_self]
  calc ofWritten? marks (moment.written marks)
      = ofFields? (decimalValue (paddedDigits 4 moment.year))
          (decimalValue (paddedDigits 2 moment.month)) (decimalValue (paddedDigits 2 moment.day))
          (decimalValue (paddedDigits 2 moment.hour))
          (decimalValue (paddedDigits 2 moment.minute))
          (decimalValue (paddedDigits 2 moment.second)) := if_pos ⟨digits, rfl⟩
    _ = some moment := by
          rw [yearValue, value month (by decide), value day (by decide), value hour (by decide),
            value minute (by decide), value second (by decide), ofFields?_fields]

/-- Only the written form of a timestamp is read as it. -/
theorem written_of_ofWritten? {marks : Marks} {text : List Char} {moment : Timestamp}
    (found : ofWritten? marks text = some moment) : text = moment.written marks := by
  rw [ofWritten?.eq_def] at found
  split at found
  · rename_i y₁ y₂ y₃ y₄ p₁ m₁ m₂ p₂ d₁ d₂ p₃ h₁ h₂ p₄ n₁ n₂ p₅ s₁ s₂
    split at found
    · rename_i shape
      rcases shape with ⟨digits, separators⟩
      rcases ofFields?_eq_some found with ⟨year, month, day, hour, minute, second⟩
      have isDigit := List.all_eq_true.mp digits
      have numeral (field : List Char) (listed : ∀ digit ∈ field, digit ∈
          [y₁, y₂, y₃, y₄, m₁, m₂, d₁, d₂, h₁, h₂, n₁, n₂, s₁, s₂]) :
          paddedDigits field.length (decimalValue field) = field :=
        paddedDigits_decimalValue fun digit member => isDigit digit (listed digit member)
      have years : paddedDigits 4 moment.year = [y₁, y₂, y₃, y₄] :=
        year ▸ numeral [y₁, y₂, y₃, y₄] (by simp)
      have months : paddedDigits 2 moment.month = [m₁, m₂] := month ▸ numeral [m₁, m₂] (by simp)
      have days : paddedDigits 2 moment.day = [d₁, d₂] := day ▸ numeral [d₁, d₂] (by simp)
      have hours : paddedDigits 2 moment.hour = [h₁, h₂] := hour ▸ numeral [h₁, h₂] (by simp)
      have minutes : paddedDigits 2 moment.minute = [n₁, n₂] :=
        minute ▸ numeral [n₁, n₂] (by simp)
      have seconds : paddedDigits 2 moment.second = [s₁, s₂] :=
        second ▸ numeral [s₁, s₂] (by simp)
      cases separators
      rw [written, years, months, days, hours, minutes, seconds]
      rfl
    · cases found
  · cases found

/-- A text is read as a timestamp if and only if it is what is written for it. -/
theorem read?_eq_some_iff {marks : Marks} {text : String} {moment : Timestamp} :
    read? marks text = some moment ↔ text = moment.render marks := by
  constructor
  · intro found
    rw [render, ← written_of_ofWritten? found, String.ofList_toList]
  · intro same
    rw [read?, same, render, String.toList_ofList, ofWritten?_written]

/-! ## The calendar -/

/-- Every fourth year is a leap year, but of the full centuries only every fourth. -/
def IsLeap (year : Nat) : Prop :=
  4 ∣ year ∧ (100 ∣ year → 400 ∣ year)

instance (year : Nat) : Decidable (IsLeap year) :=
  inferInstanceAs (Decidable (_ ∧ (_ → _)))

/-- The months of a year with their lengths. -/
def monthLengths (year : Nat) : List (Nat × Nat) :=
  [(1, 31), (2, if IsLeap year then 29 else 28), (3, 31), (4, 30), (5, 31), (6, 30), (7, 31),
    (8, 31), (9, 30), (10, 31), (11, 30), (12, 31)]

/-- The fields are a day of the calendar and a time of day, which may be a leap second. -/
structure InCalendar (year month day hour minute second : Nat) : Prop where
  years : year ≤ 9999
  days : ∃ length, (month, length) ∈ monthLengths year ∧ 1 ≤ day ∧ day ≤ length
  hours : hour ≤ 23
  minutes : minute ≤ 59
  seconds : second ≤ 60

theorem isLeapYear_iff (year : Nat) : isLeapYear year = true ↔ IsLeap year := by
  simp only [isLeapYear, IsLeap, Bool.and_eq_true, Bool.or_eq_true, beq_iff_eq, bne_iff_ne]
  omega

theorem february_eq (year : Nat) :
    daysInMonth year 2 = if IsLeap year then 29 else 28 := by
  simp only [daysInMonth, isLeapYear_iff]

theorem daysInMonth_of_mem {year month length : Nat}
    (member : (month, length) ∈ monthLengths year) : daysInMonth year month = length := by
  simp only [monthLengths, List.mem_cons, Prod.mk.injEq, List.not_mem_nil, or_false] at member
  rcases member with ⟨rfl, rfl⟩ | ⟨rfl, rfl⟩ | ⟨rfl, rfl⟩ | ⟨rfl, rfl⟩ | ⟨rfl, rfl⟩ | ⟨rfl, rfl⟩ |
    ⟨rfl, rfl⟩ | ⟨rfl, rfl⟩ | ⟨rfl, rfl⟩ | ⟨rfl, rfl⟩ | ⟨rfl, rfl⟩ | ⟨rfl, rfl⟩
  case inr.inl => exact february_eq year
  all_goals rfl

/-- A month that has a day is one of the twelve. -/
theorem mem_monthLengths {year month : Nat} (positive : 0 < daysInMonth year month) :
    (month, daysInMonth year month) ∈ monthLengths year := by
  fun_cases daysInMonth year month
  case case1 leap => simp [monthLengths, (isLeapYear_iff year).mp leap]
  case case2 common => simp [monthLengths, mt (isLeapYear_iff year).mpr common]
  case case14 =>
      have none : daysInMonth year month = 0 := by
        rw [daysInMonth] <;> assumption
      omega
  all_goals simp [monthLengths]

theorem valid_iff_inCalendar {year month day hour minute second : Nat} :
    Valid year month day hour minute second ↔ InCalendar year month day hour minute second := by
  constructor
  · rintro ⟨yearFits, first, last, hourFits, minuteFits, secondFits⟩
    exact ⟨yearFits, ⟨_, mem_monthLengths (Nat.lt_of_lt_of_le first last), first, last⟩,
      hourFits, minuteFits, secondFits⟩
  · rintro ⟨yearFits, ⟨length, listed, first, last⟩, hourFits, minuteFits, secondFits⟩
    exact ⟨yearFits, first, daysInMonth_of_mem listed ▸ last, hourFits, minuteFits, secondFits⟩

/-! ## Dates of queries -/

def fields (moment : Timestamp) : Nat × Nat × Nat × Nat × Nat × Nat :=
  (moment.year, moment.month, moment.day, moment.hour, moment.minute, moment.second)

/-- The fields as `YYYY/MM/DD HH:MM:SS`. -/
def slashed (year month day hour minute second : Nat) : String :=
  String.ofList (paddedNumeral 4 year ++ ['/'] ++ paddedNumeral 2 month ++ ['/'] ++
    paddedNumeral 2 day ++ [' '] ++ paddedNumeral 2 hour ++ [':'] ++ paddedNumeral 2 minute ++
    [':'] ++ paddedNumeral 2 second)

theorem render_eq_slashed (moment : Timestamp) :
    moment.render .query = slashed moment.year moment.month moment.day moment.hour moment.minute
      moment.second := by
  rcases moment.valid with ⟨year, -, -, hour, minute, second⟩
  have twoDigits {field bound : Nat} (limit : field ≤ bound) (fits : bound < 10 ^ 2) :
      paddedDigits 2 field = paddedNumeral 2 field :=
    paddedDigits_eq_paddedNumeral (by decide) (Nat.lt_of_le_of_lt limit fits)
  rw [render, written, slashed,
    paddedDigits_eq_paddedNumeral (by decide) (Nat.lt_of_le_of_lt year (by decide)),
    twoDigits moment.month_le (by decide), twoDigits moment.day_le (by decide),
    twoDigits hour (by decide), twoDigits minute (by decide), twoDigits second (by decide)]
  rfl

/-- A text is read as some fields if and only if they are in the calendar and it is written
so. -/
theorem read?_fields_iff {text : String} {year month day hour minute second : Nat} :
    (read? .query text).map fields = some (year, month, day, hour, minute, second) ↔
      InCalendar year month day hour minute second ∧
        text = slashed year month day hour minute second := by
  constructor
  · intro found
    rcases Option.map_eq_some_iff.mp found with ⟨moment, isRead, same⟩
    cases same
    exact ⟨valid_iff_inCalendar.mp moment.valid,
      (read?_eq_some_iff.mp isRead).trans moment.render_eq_slashed⟩
  · rintro ⟨inCalendar, same⟩
    have rendered := render_eq_slashed
      ⟨year, month, day, hour, minute, second, valid_iff_inCalendar.mpr inCalendar⟩
    rw [read?_eq_some_iff.mpr (same.trans rendered.symm)]
    rfl

theorem text_of_read? {first second : String} (accepted : read? .query first ≠ none)
    (same : read? .query first = read? .query second) : first = second := by
  rcases Option.ne_none_iff_exists'.mp accepted with ⟨moment, found⟩
  have foundAgain : read? .query second = some moment := same ▸ found
  exact (read?_eq_some_iff.mp found).trans (read?_eq_some_iff.mp foundAgain).symm

/-! ## Hyphens for slashes -/

/-- A slash becomes a hyphen. -/
def hyphen (mark : Char) : Char :=
  if mark = '/' then '-' else mark

theorem map_hyphen_digits (width value : Nat) :
    (paddedDigits width value).map hyphen = paddedDigits width value := by
  have fixed : ∀ digit ∈ paddedDigits width value, hyphen digit = digit := by
    intro digit member
    have isDigit := isDigit_paddedDigits width value digit member
    apply if_neg
    intro slash
    rw [slash] at isDigit
    cases isDigit
  exact (List.map_congr_left fixed).trans (List.map_id' _)

theorem render_parameter (moment : Timestamp) :
    moment.render .parameter = (moment.render .query).map hyphen := by
  apply String.toList_inj.mp
  rw [String.toList_map, render, render, String.toList_ofList, String.toList_ofList, written,
    written]
  simp only [List.map_append, map_hyphen_digits]
  rfl

end Timestamp
end TestQuery
