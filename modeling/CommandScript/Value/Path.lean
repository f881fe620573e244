import CommandScript.Text.Split
import CommandScript.Value.Conversion
import CommandScript.Value.Table

/-!
# Paths into values

A dotted path names, step by step, an entry of a mapping, an item of a sequence by its index, or an
attribute of anything else. A step that leads nowhere gives null, and so does every step after it.

Which attributes a value has is given from outside, and nothing is assumed of it: values that are
built in have attributes too, and what they lead to need not be data.

## Main definitions

- `CommandScript.Value.Attributes` — what the attributes of values are
- `CommandScript.Value.steps` — the steps of a path
- `CommandScript.Value.step` — one step from a value
- `CommandScript.Value.follow` — all steps of a path
-/

namespace CommandScript.Value

open Text

/-- The steps of a path; the empty path has one empty step. -/
def steps (path : List Char) : List (List Char) := splitAt '.' path

/-- Whether a step is written as an index: digits after any number of minus signs. -/
def isIndex (key : List Char) : Bool :=
  let digits := key.dropWhile (· = '-')
  !digits.isEmpty && digits.all isDigitLike

/-- The item at an index; negative indices count from the end. -/
def item (xs : List Value) (index : Int) : Value :=
  let i := if index < 0 then index + xs.length else index
  if i < 0 then .null else (xs[i.toNat]?).getD .null

/-- What the attributes of values are. -/
class Attributes where
  /-- The attribute of a value with the given name, if it has one. -/
  attribute? : Value → String → Option Value

section Following

variable [Attributes]

/-- The attribute of a value with the given name, and null where there is none. Null has none. -/
def property : Value → String → Value
  | .null, _ => .null
  | v, key => (Attributes.attribute? v key).getD .null

/-- One step from a value. -/
def step (v : Value) (key : List Char) : Except ConversionError Value :=
  -- The keys of a mapping go before its attributes, and only a sequence has indices.
  match v.entries?, v.sequence? with
  | some es, _ => .ok ((lookupText? es (String.ofList key)).getD .null)
  | none, some xs =>
    if isIndex key then
      (Numeral.toInt key (quoted (String.ofList key))).map (item xs)
    else .ok (property v (String.ofList key))
  | none, none => .ok (property v (String.ofList key))

/-- The value at the end of some steps. -/
def followSteps (v : Value) : List (List Char) → Except ConversionError Value
  | [] => .ok v
  | key :: keys =>
    match v.step key with
    | .error e => .error e
    | .ok w => w.followSteps keys

/-- The value at the end of a path. -/
def follow (v : Value) (path : List Char) : Except ConversionError Value :=
  v.followSteps (steps path)

/-- Nothing lies beyond null. -/
theorem step_null (key : List Char) : step .null key = .ok .null := rfl

end Following

end CommandScript.Value
