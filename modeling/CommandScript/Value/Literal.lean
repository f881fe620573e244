import CommandScript.Text.Quoted
import CommandScript.Value.Basic

/-!
# Literals of values

The literal of a value is its notation in messages: texts are quoted, collections are written out
with their brackets. The plain text of a value is the literal, except that texts, dates and other
objects stand for themselves.

A whole number of more than `Numeral.digitLimit` digits has no text, nor has anything that
contains one.

## Main definitions

- `CommandScript.Value.literal?` — the literal of a value
- `CommandScript.Value.plain?` — the plain text of a value
-/

namespace CommandScript

/-- The literal of a distance from universal time. -/
def offsetLiteral (minutes : Int) : String :=
  let parts :=
    if minutes < 0 then "days=-1, seconds=" ++ toString (86400 + minutes * 60)
    else "seconds=" ++ toString (minutes * 60)
  if minutes = 0 then "datetime.timezone.utc"
  else "datetime.timezone(datetime.timedelta(" ++ parts ++ "))"

/-- The literal of a day. -/
def Date.literal (d : Date) : String :=
  "datetime.date(" ++ ", ".intercalate [toString d.year, toString d.month, toString d.day] ++ ")"

/-- The literal of a point in time; seconds and microseconds are left out where nothing follows
them. -/
def DateTime.literal (t : DateTime) : String :=
  let always := [t.date.year, t.date.month, t.date.day, t.hour, t.minute]
  let fields :=
    if t.microsecond ≠ 0 then always ++ [t.second, t.microsecond]
    else if t.second ≠ 0 then always ++ [t.second]
    else always
  let zone := (t.offset.map fun m => ["tzinfo=" ++ offsetLiteral m]).getD []
  "datetime.datetime(" ++ ", ".intercalate (fields.map toString ++ zone) ++ ")"

namespace Value

/-- The word for a truth value. -/
def boolWord (b : Bool) : String := if b then "True" else "False"

/-- Pieces with commas between them. -/
def commaSeparated (pieces : List String) : String := ", ".intercalate pieces

/-- The literal of a tuple with the given items; a single item is followed by a comma. -/
def tupleLiteral : List String → String
  | [x] => "(" ++ x ++ ",)"
  | xs => "(" ++ commaSeparated xs ++ ")"

/-- The literal of a set with the given items. -/
def setLiteral (xs : List String) : String :=
  if xs.isEmpty then "set()" else "\x7b" ++ commaSeparated xs ++ "\x7d"

/-- The literal of an unchangeable set with the given items. -/
def frozenSetLiteral (xs : List String) : String :=
  if xs.isEmpty then "frozenset()" else "frozenset(\x7b" ++ commaSeparated xs ++ "\x7d)"

/-- The literal of a record with the given entries. -/
def recordLiteral (entries : List (String × String)) : String :=
  if entries.isEmpty then "OrderedDict()"
  else
    let pairs := entries.map fun e => "(" ++ e.1 ++ ", " ++ e.2 ++ ")"
    "OrderedDict([" ++ commaSeparated pairs ++ "])"

mutual

/-- The literal of a value. -/
def literal? : Value → Option String
  | .null => some "None"
  | .bool b => some (boolWord b)
  | .int n => Numeral.intText? n
  | .derivedInt n => Numeral.intText? n
  | .float x => some x.text
  | .text s => some (Text.quoted s)
  | .derivedText s => some (Text.quoted s)
  | .bytes bs => some (Text.quotedBytes bs)
  | .buffer bs => some ("bytearray(" ++ Text.quotedBytes bs ++ ")")
  | .list xs => (literals? xs).map fun ls => "[" ++ commaSeparated ls ++ "]"
  | .tuple xs => (literals? xs).map tupleLiteral
  | .set xs => (literals? xs).map setLiteral
  | .frozenSet xs => (literals? xs).map frozenSetLiteral
  | .map es =>
    (entryLiterals? es).map fun ls =>
      "\x7b" ++ commaSeparated (ls.map fun e => e.1 ++ ": " ++ e.2) ++ "\x7d"
  | .record es => (entryLiterals? es).map recordLiteral
  | .date d => some d.literal
  | .dateTime t => some t.literal
  | .thing shown _ => some shown

/-- The literals of a list of values. -/
def literals? : List Value → Option (List String)
  | [] => some []
  | x :: xs =>
    match literal? x with
    | none => none
    | some l => (literals? xs).map (l :: ·)

/-- The literals of the keys and values of entries. -/
def entryLiterals? : List (Value × Value) → Option (List (String × String))
  | [] => some []
  | (k, v) :: es =>
    match literal? k, literal? v with
    | some a, some b => (entryLiterals? es).map ((a, b) :: ·)
    | _, _ => none

end

/-- The plain text of a value. -/
def plain? : Value → Option String
  | .text s => some s
  | .derivedText s => some s
  | .date d => some d.text
  | .dateTime t => some t.text
  | .thing shown _ => some shown
  | v => v.literal?

/-- The plain text of a value that has one. -/
def plain (v : Value) : String := v.plain?.getD ""

/-- A text is its own plain text. -/
@[simp] theorem plain?_text (s : String) : plain? (.text s) = some s := rfl

end Value

end CommandScript
