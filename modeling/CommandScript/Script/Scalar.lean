import CommandScript.Number.Numeral
import CommandScript.Value.Basic

/-!
# Scalars in argument texts

An argument that reads as a number, a truth value or `undefined` is passed on as one. Numbers are
whole or have digits on both sides of the point; nothing may stand around them.

## Main definitions

- `CommandScript.Script.isNumeral` — whether a text is a number
- `CommandScript.Script.scalar` — the value of an argument text
- `CommandScript.Script.coerced` — the value that stands for a value
-/

namespace CommandScript.Script

open Text

/-- A text without a minus sign in front. -/
def dropMinus : List Char → List Char
  | '-' :: cs => cs
  | cs => cs

/-- Whether a text is a number: digits, or digits on both sides of a point, after at most one
minus sign. -/
def isNumeral (cs : List Char) : Bool :=
  let body := dropMinus cs
  let whole := body.takeWhile isDecimal
  match body.dropWhile isDecimal with
  | [] => !whole.isEmpty
  | '.' :: fraction => !whole.isEmpty && !fraction.isEmpty && fraction.all isDecimal
  | _ => false

/-- The number that a text denotes: a double where it has a point. -/
def number (cs : List Char) : Except Numeral.IntError Value :=
  if cs.contains '.' then .ok (.float ((Numeral.readFloat? cs).getD .nan))
  else (Numeral.readInt cs).map .int

/-- The value of an argument text. -/
def scalar (s : String) : Except Numeral.IntError Value :=
  if s = "true" then .ok (.bool true)
  else if s = "false" then .ok (.bool false)
  else if s = "undefined" then .ok .null
  else if isNumeral s.toList then number s.toList
  else .ok (.text s)

/-- The value that stands for a value: the one that a text reads as, and any other value itself. -/
def coerced (v : Value) : Except Numeral.IntError Value :=
  match v.text? with
  | some s => scalar s
  | none => .ok v

end CommandScript.Script
