import CommandScript.Payload

/-!
# Printed results

The text that stands in a command string in place of a call that returned a value. Null prints as
nothing, whole doubles without a point, and collections as JSON.

## Main definitions

- `CommandScript.Value.printed` — the text of a value
-/

namespace CommandScript.Value

/-- Values with their plain texts. -/
def withPlain : List Value → Except ConversionError (List (String × Value))
  | [] => .ok []
  | v :: vs =>
    match v.plainText with
    | .error e => .error e
    | .ok s => (withPlain vs).map ((s, v) :: ·)

/-- Values in the order of their plain texts. -/
def sortedByPlain (vs : List Value) : Except ConversionError (List Value) :=
  (withPlain vs).map fun ps => (ps.mergeSort fun p q => !(q.1 < p.1)).map (·.2)

/-- A collection on one line of JSON. -/
def printedJson (v : Value) : Except Payload.WriteError String :=
  Payload.write v (some "json") false

/-- A double: whole ones as whole numbers. -/
def printedFloat (x : Binary64) : String :=
  match x with
  | .finite s r =>
    if x.isWhole then Numeral.intTextUnlimited (Binary64.truncated s r) else x.text
  | _ => x.text

/-- The text of a value in a command string. -/
def printed (v : Value) : Except Payload.WriteError String :=
  match v with
  | .null => .ok ""
  | .bool b => .ok (if b then "true" else "false")
  | .text s => .ok s
  | .derivedText s => .ok s
  | .float x => .ok (printedFloat x)
  | .bytes bs => .ok (String.ofList (Text.Utf8.decodeLossy bs))
  | .list _ => v.printedJson
  | .tuple _ => v.printedJson
  | .map _ => v.printedJson
  | .record _ => v.printedJson
  | .set xs =>
    match sortedByPlain xs with
    | .ok ys => printedJson (.list ys)
    | .error e => .error (.conversion e)
  | v => v.plainText.mapError .conversion

/-- A text prints as itself. -/
@[simp] theorem printed_text (s : String) : printed (.text s) = .ok s := rfl

/-- Null prints as nothing. -/
@[simp] theorem printed_null : printed .null = .ok "" := rfl

end CommandScript.Value
