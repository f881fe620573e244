import CommandScript.Calendar
import CommandScript.Value.Conversion

/-!
# Loaders of YAML

What reads a YAML text is given from outside: a loader gives the value of a text, or says why it has
none. Most faults of a text are faults of its form. A few arise only where a scalar that has the
right form is turned into a value, and have causes of their own.

## Main definitions

- `CommandScript.Yaml.ReadError` — why a YAML text is not read
- `CommandScript.Yaml.Loader` — what reads YAML texts

## Design notes

Nothing is assumed of a loader, and whatever is said of what is read holds for all of them. The
reader of `CommandScript.Yaml.Reader` is one of them; it makes no claim to read every text as other
loaders do.
-/

namespace CommandScript.Yaml

/-- Why a YAML text is not read. -/
inductive ReadError where
  /-- The text is no document, or has a tag or an alias that means nothing. -/
  | malformed
  | conversion (e : ConversionError)
  | calendar (e : CalendarError)
  /-- A text that is tagged as a truth value and is none. -/
  | noTruthValue (word : String)
  /-- A text that is tagged as a number and is empty. -/
  | emptyNumber
  /-- A text that is tagged as a point in time and is none. -/
  | noTimestamp
  /-- A collection that is tagged as a point in time. -/
  | noTimestampText
  /-- An escape whose number is past the last character; `wide` where it is past every number. -/
  | noCharacter (wide : Bool)
  /-- A failure of a kind of its own. -/
  | other (kind message : String)
  deriving DecidableEq, Repr

namespace ReadError

/-- The word for the kind of an error. -/
def kind : ReadError → String
  | .malformed => "YAMLError"
  | .conversion e => e.kind
  | .calendar _ => "ValueError"
  | .noTruthValue _ => "KeyError"
  | .emptyNumber => "IndexError"
  | .noTimestamp => "AttributeError"
  | .noTimestampText => "TypeError"
  | .noCharacter wide => if wide then "OverflowError" else "ValueError"
  | .other kind _ => kind

/-- The wording of an error. -/
def message : ReadError → String
  | .malformed => ""
  | .conversion e => e.message
  | .calendar e => e.message
  | .noTruthValue w => Text.quoted w
  | .emptyNumber => "string index out of range"
  | .noTimestamp => "'NoneType' object has no attribute 'groupdict'"
  | .noTimestampText => "expected string or bytes-like object, got 'list'"
  | .noCharacter wide =>
    if wide then "Python int too large to convert to C int" else "chr() arg not in range(0x110000)"
  | .other _ message => message

end ReadError

/-- What reads YAML texts: the value that a text stands for, or why it stands for none. -/
class Loader where
  load : List Char → Except ReadError Value

end CommandScript.Yaml
