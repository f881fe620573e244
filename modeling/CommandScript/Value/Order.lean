import CommandScript.Value.Equality

/-!
# The order of values

Which of two values is the greater one. Numbers are ordered by what they denote, texts and byte
texts by their characters, lists by the first place at which they differ, sets by inclusion, and
days and moments by time. Other pairs of values have no order.

## Main definitions

- `CommandScript.Value.OrderError` — why two values have no order
- `CommandScript.Value.exceeds` — whether one value is greater than another
-/

namespace CommandScript.Value

/-- Why two values have no order. Types are given by their names. -/
inductive OrderError where
  | unordered (left right : String)
  | dayAndMoment (left right : String)
  /-- Two moments of which one has no offset. -/
  | mixedOffsets
  deriving DecidableEq, Repr

/-- The wording of an error. -/
def OrderError.message : OrderError → String
  | .unordered a b => "'>' not supported between instances of '" ++ a ++ "' and '" ++ b ++ "'"
  | .dayAndMoment a b => "can't compare " ++ a ++ " to " ++ b
  | .mixedOffsets => "can't compare offset-naive and offset-aware datetimes"

/-- Whether one byte text is greater than another. -/
def bytesExceed (bs cs : List UInt8) : Bool := decide (cs.map UInt8.toNat < bs.map UInt8.toNat)

/-- Whether a value counts as a number when values are compared. -/
def isNumeric (v : Value) : Bool := v.kind == .number || v.kind == .boolean

/-- Whether one value without items is greater than another. Something that is no number, though of
a type of numbers, is never the greater nor the smaller one. -/
def atomExceeds (v w : Value) : Except OrderError Bool :=
  match v, w with
  | .date d, .date e => .ok (e.dayNumber < d.dayNumber)
  | .dateTime t, .dateTime u =>
    if t.offset.isSome == u.offset.isSome then .ok (u.instant < t.instant) else .error .mixedOffsets
  | .date _, .dateTime _ => .error (.dayAndMoment v.fullTypeName w.fullTypeName)
  | .dateTime _, .date _ => .error (.dayAndMoment v.fullTypeName w.fullTypeName)
  | _, _ =>
    match v.text?, w.text? with
    | some s, some t => .ok (t < s)
    | _, _ =>
      match v.byteContent?, w.byteContent? with
      | some bs, some cs => .ok (bytesExceed bs cs)
      | _, _ =>
        if v.isNumeric && w.isNumeric then .ok (v.compareNumbers? w == some .gt)
        else .error (.unordered v.fullTypeName w.fullTypeName)

/-- Whether one set properly contains another. -/
def setExceeds (xs ys : List Value) : Bool := ys.length < xs.length && containedItems ys xs

mutual

/-- Whether one value is greater than another. -/
def exceeds : Value → Value → Except OrderError Bool
  | .list xs, w =>
    match w with
    | .list ys => itemsExceed xs ys
    | w => .error (.unordered "list" w.fullTypeName)
  | .tuple xs, w =>
    match w with
    | .tuple ys => itemsExceed xs ys
    | w => .error (.unordered "tuple" w.fullTypeName)
  | .set xs, w =>
    match w with
    | .set ys => .ok (setExceeds xs ys)
    | .frozenSet ys => .ok (setExceeds xs ys)
    | w => .error (.unordered "set" w.fullTypeName)
  | .frozenSet xs, w =>
    match w with
    | .set ys => .ok (setExceeds xs ys)
    | .frozenSet ys => .ok (setExceeds xs ys)
    | w => .error (.unordered "frozenset" w.fullTypeName)
  | v, w => atomExceeds v w

/-- Whether one list of items is greater than another: the first place at which they differ
decides, and where there is none, the longer one is greater. -/
def itemsExceed : List Value → List Value → Except OrderError Bool
  | [], _ => .ok false
  | x :: xs, ys =>
    match ys with
    | [] => .ok true
    | y :: ys => if equal x y then itemsExceed xs ys else exceeds x y

end

end CommandScript.Value
