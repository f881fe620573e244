import CommandScript.Json.Token
import CommandScript.Value.Conversion
import CommandScript.Value.Table

/-!
# Writing JSON

The JSON text of a value, on one line or indented. Before it is written a value is simplified:
tuples become lists, and the keys of mappings become their plain texts.

## Main definitions

- `CommandScript.Value.simplified` — a value of lists and mappings with text keys
- `CommandScript.Json.WriteError` — why a value is not written
- `CommandScript.Json.write` — the JSON text of a simplified value
-/

namespace CommandScript

namespace Value

mutual

/-- A value with lists for tuples and text keys in mappings. Keys that have the same text become
one. -/
def simplified : Value → Except ConversionError Value
  | .list xs => (simplifiedItems xs).map .list
  | .tuple xs => (simplifiedItems xs).map .list
  | .map es => (simplifiedEntries [] es).map .map
  | .record es => (simplifiedEntries [] es).map .map
  | v => .ok v

/-- The simplified values of a list. -/
def simplifiedItems : List Value → Except ConversionError (List Value)
  | [] => .ok []
  | x :: xs =>
    match simplified x with
    | .error e => .error e
    | .ok y => (simplifiedItems xs).map (y :: ·)

/-- Simplified entries written one after the other into a table. -/
def simplifiedEntries (table : List (Value × Value)) :
    List (Value × Value) → Except ConversionError (List (Value × Value))
  | [] => .ok table
  | (k, v) :: es =>
    match k.plainText with
    | .error e => .error e
    | .ok key =>
      match simplified v with
      | .error e => .error e
      | .ok w => simplifiedEntries (insertEntry table (.text key) w) es

end

end Value

namespace Json

/-- Why a value is not written: its type has no notation, or a whole number in it is too long. -/
inductive WriteError where
  | unserializable (typeName : String)
  | conversion (e : ConversionError)
  deriving DecidableEq, Repr

/-- A character inside a quoted text. -/
def quotedChar (c : Char) : List Char :=
  if c = '"' ∨ c = '\\' then ['\\', c]
  else if c = '\n' then ['\\', 'n']
  else if c = '\r' then ['\\', 'r']
  else if c = '\t' then ['\\', 't']
  else if c = '\x08' then ['\\', 'b']
  else if c = '\x0c' then ['\\', 'f']
  else if c < ' ' then '\\' :: 'u' :: Text.hexDigits 4 c.toNat
  else [c]

/-- A text between quotes. -/
def quoted (cs : List Char) : List Char := '"' :: cs.flatMap quotedChar ++ ['"']

/-- Doubles in JSON: in place from `0.0001` up to below `10 ^ 16`. -/
def floatStyle : FloatStyle := ⟨-3, 16, ".0", "Infinity", "NaN"⟩

/-- How a collection is laid out: on one line, or indented below a level. -/
inductive Layout where
  | compact
  | indented (level : Nat)

namespace Layout

/-- The layout of what is inside a collection. -/
def inner : Layout → Layout
  | .compact => .compact
  | .indented n => .indented (n + 1)

/-- The break before an item, or before the end of a collection. -/
def lineBreak : Layout → List Char
  | .compact => []
  | .indented n => '\n' :: List.replicate (2 * n) ' '

/-- What stands between a key and its value. -/
def afterKey : Layout → List Char
  | .compact => [':']
  | .indented _ => [':', ' ']

/-- A collection with the given brackets and written items. -/
def enclose (l : Layout) (opening closing : Char) (items : List (List Char)) : List Char :=
  match items with
  | [] => [opening, closing]
  | items =>
    opening :: l.inner.lineBreak ++ (',' :: l.inner.lineBreak).intercalate items ++ l.lineBreak ++
      [closing]

end Layout

/-- The text of a whole number. -/
def writeInt (n : Int) : Except WriteError (List Char) :=
  if Numeral.exceedsLimit n then .error (.conversion .unwritable) else .ok (Numeral.intChars n)

/-- The text of a key; simplified values have text keys only. -/
def keyChars (k : Value) : List Char := quoted (k.text?.getD "").toList

mutual

/-- The JSON text of a simplified value. -/
def write (l : Layout) : Value → Except WriteError (List Char)
  | .null => .ok "null".toList
  | .bool b => .ok (if b then "true".toList else "false".toList)
  | .int n => writeInt n
  | .derivedInt n => writeInt n
  | .float x => .ok (floatStyle.render x).toList
  | .text s => .ok (quoted s.toList)
  | .derivedText s => .ok (quoted s.toList)
  | .list xs => (writeItems l.inner xs).map (l.enclose '[' ']')
  | .tuple xs => (writeItems l.inner xs).map (l.enclose '[' ']')
  | .map es => (writeEntries l.inner es).map (l.enclose '\x7b' '\x7d')
  | .record es => (writeEntries l.inner es).map (l.enclose '\x7b' '\x7d')
  | v => .error (.unserializable v.typeName)

/-- The JSON texts of the values of a list. -/
def writeItems (l : Layout) : List Value → Except WriteError (List (List Char))
  | [] => .ok []
  | x :: xs =>
    match write l x with
    | .error e => .error e
    | .ok cs => (writeItems l xs).map (cs :: ·)

/-- The JSON texts of entries. -/
def writeEntries (l : Layout) : List (Value × Value) → Except WriteError (List (List Char))
  | [] => .ok []
  | (k, v) :: es =>
    match write l v with
    | .error e => .error e
    | .ok cs => (writeEntries l es).map ((keyChars k ++ l.afterKey ++ cs) :: ·)

end

end Json

end CommandScript
