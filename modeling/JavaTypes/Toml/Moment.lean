import JavaTypes.Toml.Quoted

/-!
# TOML dates and times

Only the form of a date or a time matters here, so the readers check it and
keep nothing.
-/

namespace JavaTypes.Toml

/-- A number of a fixed count of digits within bounds. -/
def fixedNumber (count low high : Nat) : Reader Nat :=
  (Reader.exactly Char.isDigit count).filterMap fun digits =>
    let value := digitsValue 10 digits
    if low ≤ value ∧ value ≤ high then some value else none

/-- The number of days of a month. -/
def daysOfMonth (year month : Nat) : Nat :=
  if month = 2 then
    if year % 4 = 0 ∧ (year % 100 ≠ 0 ∨ year % 400 = 0) then 29 else 28
  else if month = 4 ∨ month = 6 ∨ month = 9 ∨ month = 11 then 30
  else 31

/-- A date, as in `1979-05-27`. -/
def date : Reader Unit :=
  (fixedNumber 4 0 9999).andThen fun year =>
    (Reader.char '-').andThen fun _ =>
      (fixedNumber 2 1 12).andThen fun month =>
        (Reader.char '-').andThen fun _ =>
          (fixedNumber 2 1 (daysOfMonth year month)).map fun _ => ()

/-- A time, as in `07:32:00.5`. -/
def time : Reader Unit :=
  (fixedNumber 2 0 23).andThen fun _ =>
    (Reader.char ':').andThen fun _ =>
      (fixedNumber 2 0 59).andThen fun _ =>
        (Reader.char ':').andThen fun _ =>
          (fixedNumber 2 0 60).andThen fun _ =>
            (Reader.optional
              ((Reader.char '.').andThen fun _ =>
                Reader.stretch Char.isDigit)).map fun _ => ()

/-- An offset from universal time, as in `Z` or `-07:00`. -/
def offset : Reader Unit :=
  Reader.orElse
    ((Reader.satisfying fun c => c == 'Z' || c == 'z').map fun _ => ())
    ((Reader.satisfying fun c => c == '+' || c == '-').andThen fun _ =>
      (fixedNumber 2 0 23).andThen fun _ =>
        (Reader.char ':').andThen fun _ =>
          (fixedNumber 2 0 59).map fun _ => ())

/-- The time that follows a date, behind a `T` or a space. -/
def timeOfDay : Reader Unit :=
  (Reader.satisfying fun c => c == 'T' || c == 't' || c == ' ').andThen fun _ =>
    time.andThen fun _ => (Reader.optional offset).map fun _ => ()

/-- A date with or without a time, or a time alone. -/
def moment : Reader Unit :=
  Reader.orElse
    (date.andThen fun _ => (Reader.optional timeOfDay).map fun _ => ())
    time

end JavaTypes.Toml
