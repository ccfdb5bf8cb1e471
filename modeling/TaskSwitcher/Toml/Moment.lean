import TaskSwitcher.Toml.Number

/-!
# Dates and times of a document

A moment is a date of the calendar, a time of day, or a date with a time of day, which may be followed by
its distance from universal time. No setting is a moment: to all readers of values a moment is a record
with a field that none of them knows, so nothing but its presence is kept.
-/

namespace TaskSwitcher.Toml

/-- What a moment stands for among the values of a document. -/
def moment : Value :=
  .record [("moment", .null)]

/-- The number that exactly `count` decimal digits give. -/
def paddedNumber (count : Nat) (characters : List Char) : Option (Nat × List Char) :=
  let digits := characters.take count
  if digits.length = count && digits.all (isDigitOf 10) then
    some (numeral 10 digits, characters.drop count)
  else none

/-- The rest of a text that begins with a mark, after that mark. -/
def afterMark? (mark : Char) : List Char → Option (List Char)
  | [] => none
  | character :: rest => if character = mark then some rest else none

/-- Whether a year has a leap day: every fourth one, but of the full centuries only every fourth. -/
def isLeapYear (year : Nat) : Bool :=
  year % 4 = 0 && (year % 100 ≠ 0 || year % 400 = 0)

/-- The number of days of a month, which is counted from one. -/
def daysInMonth (year : Nat) : Nat → Nat
  | 2 => if isLeapYear year then 29 else 28
  | 4 | 6 | 9 | 11 => 30
  | _ => 31

/-- The rest after a date, which has to be one of the calendar. -/
def afterDate? (characters : List Char) : Option (List Char) := do
  let (year, rest) ← paddedNumber 4 characters
  let (month, rest) ← paddedNumber 2 (← afterMark? '-' rest)
  let (day, rest) ← paddedNumber 2 (← afterMark? '-' rest)
  if 1 ≤ month ∧ month ≤ 12 ∧ 1 ≤ day ∧ day ≤ daysInMonth year month then some rest else none

/-- The rest after an hour and a minute. -/
def afterMinute? (characters : List Char) : Option (List Char) := do
  let (hour, rest) ← paddedNumber 2 characters
  let (minute, rest) ← paddedNumber 2 (← afterMark? ':' rest)
  if hour ≤ 23 ∧ minute ≤ 59 then some rest else none

/-- The rest after the fraction of a second, which may have any number of digits. -/
def afterFraction? (characters : List Char) : Option (List Char) := do
  let rest ← afterMark? '.' characters
  let digits := rest.takeWhile (isDigitOf 10)
  if digits.isEmpty then none else some (rest.drop digits.length)

/-- The rest after a time of day. Seconds have to be given, and a minute may have a leap second. -/
def afterTime? (characters : List Char) : Option (List Char) := do
  let (second, rest) ← paddedNumber 2 (← afterMark? ':' (← afterMinute? characters))
  if second ≤ 60 then some ((afterFraction? rest).getD rest) else none

/-- The rest after a distance from universal time. -/
def afterOffset? : List Char → Option (List Char)
  | 'Z' :: rest | 'z' :: rest => some rest
  | '+' :: rest | '-' :: rest => afterMinute? rest
  | _ => none

/-- The rest after a time of day that belongs to the date in front of it. -/
def afterTimeOfDate? : List Char → Option (List Char)
  | 'T' :: rest | 't' :: rest | ' ' :: rest =>
      (afterTime? rest).map fun rest => (afterOffset? rest).getD rest
  | _ => none

/-- The rest after a moment. A blank behind a date belongs to it only if a time of day follows. -/
def afterMoment? (characters : List Char) : Option (List Char) :=
  match afterDate? characters with
  | some rest => some ((afterTimeOfDate? rest).getD rest)
  | none => afterTime? characters

end TaskSwitcher.Toml
