import CommandScript.Yaml.Loader

/-!
# Timestamps of YAML

Days and points in time as YAML writes them. The fields are read without regard to their ranges,
which are checked when the value is built.

## Main definitions

- `CommandScript.Yaml.Timestamp` — the fields of a timestamp
- `CommandScript.Yaml.Timestamp.read?` — the fields that a text gives
- `CommandScript.Yaml.Timestamp.isPlain` — whether a plain text is a timestamp
- `CommandScript.Yaml.Timestamp.value` — the value of a timestamp
-/

namespace CommandScript.Yaml

/-- The time of day of a timestamp, with the digits after the point and the zone in minutes. -/
structure Clock where
  hour : Nat
  minute : Nat
  second : Nat
  fraction : List Char
  zone : Option Int

/-- The fields of a timestamp, and whether month and day both have two digits. -/
structure Timestamp where
  year : Nat
  month : Nat
  day : Nat
  padded : Bool
  clock : Option Clock

/-- A number of `least` to `most` digits at the front of a text, how many there are, and the
rest. -/
def digitRun? (least most : Nat) (cs : List Char) : Option (Nat × Nat × List Char) :=
  let ds := (cs.take most).takeWhile Char.isDigit
  if least ≤ ds.length then some (Numeral.digitsValue 0 ds, ds.length, cs.drop ds.length) else none

/-- Whether a character is a blank or a tab. -/
def isGap (c : Char) : Bool := c = ' ' || c = '\t'

/-- The minutes of a zone after its sign. -/
def readZoneMinutes? (cs : List Char) : Option Int := do
  let (hours, _, cs) ← digitRun? 1 2 cs
  match cs with
  | [] => some (hours * 60)
  | _ =>
    let cs ← after? ':' cs
    let (minutes, _, cs) ← digitRun? 2 2 cs
    if cs.isEmpty then some (hours * 60 + minutes) else none

/-- The zone at the end of a timestamp: none, universal time, or a distance from it. -/
def readZone? (cs : List Char) : Option (Option Int) :=
  match cs, cs.dropWhile isGap with
  | [], _ => some none
  | _, ['Z'] => some (some 0)
  | _, '+' :: rest => (readZoneMinutes? rest).map some
  | _, '-' :: rest => (readZoneMinutes? rest).map fun m => some (-m)
  | _, _ => none

/-- The time of day after what separates it from the day. -/
def readClock? (cs : List Char) : Option Clock := do
  let (hour, _, cs) ← digitRun? 1 2 cs
  let cs ← after? ':' cs
  let (minute, _, cs) ← digitRun? 2 2 cs
  let cs ← after? ':' cs
  let (second, _, cs) ← digitRun? 2 2 cs
  let (fraction, cs) :=
    match cs with
    | '.' :: rest => (rest.takeWhile Char.isDigit, rest.dropWhile Char.isDigit)
    | rest => ([], rest)
  let zone ← readZone? cs
  return ⟨hour, minute, second, fraction, zone⟩

namespace Timestamp

/-- The fields that a text gives. -/
def read? (cs : List Char) : Option Timestamp := do
  let (year, _, cs) ← digitRun? 4 4 cs
  let cs ← after? '-' cs
  let (month, width, cs) ← digitRun? 1 2 cs
  let cs ← after? '-' cs
  let (day, width', cs) ← digitRun? 1 2 cs
  let padded := width = 2 && width' = 2
  match cs with
  | [] => some ⟨year, month, day, padded, none⟩
  | c :: rest =>
    if c = 'T' ∨ c = 't' then
      (readClock? rest).map fun t => ⟨year, month, day, padded, some t⟩
    else if isGap c then
      (readClock? (rest.dropWhile isGap)).map fun t => ⟨year, month, day, padded, some t⟩
    else none

/-- Whether a text is a timestamp without being tagged as one: a day alone is written with all
digits. -/
def isPlain (cs : List Char) : Bool := (read? cs).any fun t => t.padded || t.clock.isSome

/-- The microseconds that the digits after the point give. -/
def microseconds (fraction : List Char) : Nat :=
  let ds := fraction.take 6
  Numeral.digitsValue 0 (ds ++ List.replicate (6 - ds.length) '0')

/-- The value of a timestamp. -/
def value (t : Timestamp) : Except CalendarError Value := do
  match t.clock with
  | none => return .date (← Date.ofFields t.year t.month t.day)
  | some c =>
    let zone ←
      match c.zone with
      | none => pure none
      | some m => (DateTime.checkedOffset m).map some
    return .dateTime (← DateTime.ofFields t.year t.month t.day c.hour c.minute c.second
      (microseconds c.fraction) zone)

end Timestamp

end CommandScript.Yaml
