import CommandScript.Script.Scalar
import CommandScript.Text.CharClass
import CommandScript.Value.Equality

/-!
# Conditions

Comparisons of two argument texts, such as `count>=10`. The operators are tried in a fixed order,
and the first that occurs anywhere cuts the text at its first occurrence. A text without an
operator is a condition where it reads as a truth value.

## Main definitions

- `CommandScript.Script.Comparison` — the six comparisons
- `CommandScript.Script.cut?` — a text cut at the first occurrence of another
- `CommandScript.Script.condition` — whether a condition holds
-/

namespace CommandScript.Script

open Text

/-- A comparison of two values. -/
inductive Comparison where
  | equal
  | notEqual
  | atLeast
  | atMost
  | greater
  | less
  deriving DecidableEq, Repr

namespace Comparison

/-- The operator of a comparison. -/
def operator : Comparison → List Char
  | .equal => ['=', '=']
  | .notEqual => ['!', '=']
  | .atLeast => ['>', '=']
  | .atMost => ['<', '=']
  | .greater => ['>']
  | .less => ['<']

/-- All comparisons, those with long operators first. -/
def all : List Comparison := [.equal, .notEqual, .atLeast, .atMost, .greater, .less]

/-- Whether a comparison by order holds of two numbers; numbers without an order are in no order. -/
def holdsOf : Comparison → Option Ordering → Bool
  | .equal, o => o = some .eq
  | .notEqual, o => o ≠ some .eq
  | .atLeast, o => o = some .gt || o = some .eq
  | .atMost, o => o = some .lt || o = some .eq
  | .greater, o => o = some .gt
  | .less, o => o = some .lt

/-- Whether a comparison holds of two values. Order is defined on numbers only. -/
def holds? (c : Comparison) (v w : Value) : Option Bool :=
  match c with
  | .equal => some (v.equal w)
  | .notEqual => some (!v.equal w)
  | _ =>
    if v.kind = .number ∧ w.kind = .number then some (c.holdsOf (v.compareNumbers? w)) else none

end Comparison

/-- The parts of a text before and after the first occurrence of a pattern. -/
def cut? (pattern : List Char) : List Char → Option (List Char × List Char)
  | [] => none
  | c :: cs =>
    if pattern.isPrefixOf (c :: cs) then some ([], (c :: cs).drop pattern.length)
    else (cut? pattern cs).map fun p => (c :: p.1, p.2)

/-- The value of the text at one side of an operator. -/
def operand (cs : List Char) : Except Numeral.IntError Value := scalar (String.ofList (trim cs))

/-- The first comparison whose operator occurs in a text, and the two sides. -/
def comparison? (cs : List Char) : Option (Comparison × List Char × List Char) :=
  Comparison.all.findSome? fun c => (cut? c.operator cs).map fun p => (c, p)

/-- The truth value that a value is. -/
def truth? : Value → Option Bool
  | .bool b => some b
  | _ => none

/-- Whether a condition holds; `none` where the text is not a condition. -/
def condition (cs : List Char) : Except Numeral.IntError (Option Bool) :=
  match comparison? cs with
  | some (c, left, right) =>
    match operand left with
    | .error e => .error e
    | .ok v => (operand right).map (c.holds? v)
  | none => (operand cs).map truth?

end CommandScript.Script
