import CommandScript.Number.Numeral

/-!
# Calendar dates

Days of the Gregorian calendar and points in time on them, with an optional distance from
universal time, and their texts.

## Main definitions

- `CommandScript.Date`, `CommandScript.DateTime` — a day, and a time of day on it
- `CommandScript.Date.ofFields`, `CommandScript.DateTime.ofFields` — checked construction
- `CommandScript.Date.text`, `CommandScript.DateTime.text` — the text of ISO 8601
- `CommandScript.DateTime.ofText?` — a point in time from that text
-/

namespace CommandScript

/-- Why fields make no date or time. -/
inductive CalendarError where
  | yearRange (year : Nat)
  | monthRange
  | dayRange
  | hourRange
  | minuteRange
  | secondRange
  | offsetRange (minutes : Int)
  deriving DecidableEq, Repr

/-- A span of minutes as days and seconds, the seconds of a day being counted from its start. -/
def spanLiteral (minutes : Int) : String :=
  let days := minutes.fdiv 1440
  let seconds := minutes.fmod 1440 * 60
  "datetime.timedelta(days=" ++ toString days ++
    (if seconds = 0 then "" else ", seconds=" ++ toString seconds) ++ ")"

/-- The wording of an error. -/
def CalendarError.message : CalendarError → String
  | .yearRange y => "year " ++ toString y ++ " is out of range"
  | .monthRange => "month must be in 1..12"
  | .dayRange => "day is out of range for month"
  | .hourRange => "hour must be in 0..23"
  | .minuteRange => "minute must be in 0..59"
  | .secondRange => "second must be in 0..59"
  | .offsetRange m =>
    "offset must be a timedelta strictly between -timedelta(hours=24) and timedelta(hours=24), not "
      ++ spanLiteral m ++ "."

/-- A day of the calendar. -/
structure Date where
  year : Nat
  month : Nat
  day : Nat
  deriving DecidableEq, Repr

/-- A time of day, with the distance from universal time in minutes where it is known. -/
structure DateTime where
  date : Date
  hour : Nat
  minute : Nat
  second : Nat
  microsecond : Nat
  offset : Option Int
  deriving DecidableEq, Repr

/-- A number with zeros in front up to a width. -/
def padded (width n : Nat) : List Char :=
  let ds := Nat.toDigits 10 n
  List.replicate (width - ds.length) '0' ++ ds

namespace Date

/-- Whether a year has a leap day. -/
def isLeap (year : Nat) : Bool := year % 4 = 0 && (year % 100 ≠ 0 || year % 400 = 0)

/-- The number of days of a month. -/
def monthLength (year month : Nat) : Nat :=
  if month = 2 then (if isLeap year then 29 else 28)
  else if month = 4 ∨ month = 6 ∨ month = 9 ∨ month = 11 then 30
  else 31

/-- The day with the given fields. -/
def ofFields (year month day : Nat) : Except CalendarError Date :=
  if year < 1 ∨ 9999 < year then .error (.yearRange year)
  else if month < 1 ∨ 12 < month then .error .monthRange
  else if day < 1 ∨ monthLength year month < day then .error .dayRange
  else .ok ⟨year, month, day⟩

/-- Year, month and day between hyphens. -/
def chars (d : Date) : List Char :=
  padded 4 d.year ++ '-' :: padded 2 d.month ++ '-' :: padded 2 d.day

/-- The text of a day. -/
def text (d : Date) : String := String.ofList d.chars

/-- The number of days before the first of January of a year. -/
def daysBeforeYear (year : Nat) : Nat :=
  let y := year - 1
  y * 365 + y / 4 - y / 100 + y / 400

/-- The number of days of a year in its first months. -/
def daysOfMonths (year : Nat) : (months : Nat) → Nat
  | 0 => 0
  | m + 1 => daysOfMonths year m + monthLength year (m + 1)

/-- The number of the day, the first of January of the year one being the first. -/
def dayNumber (d : Date) : Nat :=
  daysBeforeYear d.year + daysOfMonths d.year (d.month - 1) + d.day

end Date

namespace DateTime

/-- The point in time with the given fields. -/
def ofFields (year month day hour minute second microsecond : Nat) (offset : Option Int) :
    Except CalendarError DateTime := do
  let date ← Date.ofFields year month day
  if 23 < hour then .error .hourRange
  else if 59 < minute then .error .minuteRange
  else if 59 < second then .error .secondRange
  else .ok ⟨date, hour, minute, second, microsecond, offset⟩

/-- A distance from universal time is less than a day. -/
def checkedOffset (minutes : Int) : Except CalendarError Int :=
  if -1440 < minutes ∧ minutes < 1440 then .ok minutes else .error (.offsetRange minutes)

/-- A distance from universal time with its sign. -/
def offsetChars (minutes : Int) : List Char :=
  (if minutes < 0 then '-' else '+') ::
    (padded 2 (minutes.natAbs / 60) ++ ':' :: padded 2 (minutes.natAbs % 60))

/-- The text of a point in time with the given character between day and time. -/
def chars (between : Char) (t : DateTime) : List Char :=
  t.date.chars ++ between :: padded 2 t.hour ++ ':' :: padded 2 t.minute ++ ':' :: padded 2 t.second
    ++ (if t.microsecond = 0 then [] else '.' :: padded 6 t.microsecond)
    ++ (t.offset.map offsetChars).getD []

/-- The text of a point in time for readers, with a blank before the time. -/
def text (t : DateTime) : String := String.ofList (t.chars ' ')

/-- The text of a point in time as ISO 8601 has it. -/
def isoText (t : DateTime) : String := String.ofList (t.chars 'T')

/-- The time since the first day in microseconds of universal time; unknown distances count as
none. -/
def instant (t : DateTime) : Int :=
  ((((t.date.dayNumber : Int) * 24 + t.hour) * 60 + t.minute - t.offset.getD 0) * 60 + t.second)
    * 1000000 + t.microsecond

end DateTime

/-- A run of exactly `width` digits at the front of a text, with the rest. -/
def digitField? (width : Nat) (cs : List Char) : Option (Nat × List Char) :=
  let ds := cs.take width
  if ds.length = width ∧ ds.all Char.isDigit then some (Numeral.digitsValue 0 ds, cs.drop width)
  else none

/-- The rest of a text after a given character. -/
def after? (c : Char) : List Char → Option (List Char)
  | d :: cs => if c = d then some cs else none
  | [] => none

/-- The day at the front of a text. -/
def Date.read? (cs : List Char) : Option (Date × List Char) := do
  let (year, cs) ← digitField? 4 cs
  let cs ← after? '-' cs
  let (month, cs) ← digitField? 2 cs
  let cs ← after? '-' cs
  let (day, cs) ← digitField? 2 cs
  match Date.ofFields year month day with
  | .ok d => some (d, cs)
  | .error _ => none

/-- The distance from universal time at the end of a text, where there is one. -/
def readOffset? : List Char → Option (Option Int)
  | [] => some none
  | c :: cs => do
    let (hours, cs) ← digitField? 2 cs
    let cs ← after? ':' cs
    let (minutes, cs) ← digitField? 2 cs
    let total : Int := hours * 60 + minutes
    if cs ≠ [] then none
    else if c = '+' then some (some total)
    else if c = '-' then some (some (-total))
    else none

/-- The microseconds after a point at the front of a text, with the rest. -/
def readMicroseconds? : List Char → Option (Nat × List Char)
  | '.' :: cs => digitField? 6 cs
  | cs => some (0, cs)

/-- The point in time that a text of ISO 8601 gives. -/
def DateTime.ofText? (s : String) : Option DateTime := do
  let (date, cs) ← Date.read? s.toList
  let cs ← after? 'T' cs
  let (hour, cs) ← digitField? 2 cs
  let cs ← after? ':' cs
  let (minute, cs) ← digitField? 2 cs
  let cs ← after? ':' cs
  let (second, cs) ← digitField? 2 cs
  let (micro, cs) ← readMicroseconds? cs
  let offset ← readOffset? cs
  match DateTime.ofFields date.year date.month date.day hour minute second micro offset with
  | .ok t => some t
  | .error _ => none

/-- The day that a text gives. -/
def Date.ofText? (s : String) : Option Date :=
  match Date.read? s.toList with
  | some (d, []) => some d
  | _ => none

end CommandScript
