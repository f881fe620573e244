import CommandScript.Json.Token
import CommandScript.Value.Conversion
import CommandScript.Value.Table

/-!
# Reading JSON

The value that a JSON text denotes. The tokens are consumed one by one against a stack of the
collections that are still open. A key that is written twice keeps its first place and its last
value.

## Main definitions

- `CommandScript.Json.ReadError` — why a text is not read
- `CommandScript.Json.readTokens` — the value that tokens denote
- `CommandScript.Json.read` — the value that a text denotes
-/

namespace CommandScript.Json

/-- Why a JSON text is not read: it is malformed, or a whole number in it is too long. -/
inductive ReadError where
  | malformed
  | tooManyDigits (count : Nat)
  deriving DecidableEq, Repr

/-- A collection that is still open: its items, or its entries and the key of the next one, both
backwards. -/
inductive Frame where
  | items (done : List Value)
  | entries (done : List (Value × Value)) (key : String)

/-- What may come next. -/
inductive Awaiting where
  | value
  | itemOrEnd
  | keyOrEnd (done : List (Value × Value))
  | key (done : List (Value × Value))
  | colon
  | separator
  | ending (v : Value)

/-- A finished value in the innermost open collection. -/
def deliver (v : Value) : List Frame → List Frame × Awaiting
  | [] => ([], .ending v)
  | .items done :: stack => (.items (v :: done) :: stack, .separator)
  | .entries done key :: stack => (.entries ((.text key, v) :: done) key :: stack, .separator)

/-- A mapping from its entries, given backwards. -/
def closedMap (done : List (Value × Value)) : Value := .map (Value.ofEntries done.reverse)

/-- The value of a token that is one by itself. -/
def atom? : Token → Option (Except ReadError Value)
  | .null => some (.ok .null)
  | .bool b => some (.ok (.bool b))
  | .text cs => some (.ok (.text (String.ofList cs)))
  | .float x => some (.ok (.float x))
  | .int numeral =>
    match Numeral.readInt numeral with
    | .ok n => some (.ok (.int n))
    | .error (.tooManyDigits n) => some (.error (.tooManyDigits n))
    | .error .malformed => some (.error .malformed)
  | _ => none

/-- The state after the first token of a value. -/
def beginValue (t : Token) (stack : List Frame) : Except ReadError (List Frame × Awaiting) :=
  match t with
  | .openList => .ok (.items [] :: stack, .itemOrEnd)
  | .openMap => .ok (stack, .keyOrEnd [])
  | t =>
    match atom? t with
    | some (.ok v) => .ok (deliver v stack)
    | some (.error e) => .error e
    | none => .error .malformed

/-- The state after one token. -/
def advance (stack : List Frame) (awaiting : Awaiting) (t : Token) :
    Except ReadError (List Frame × Awaiting) :=
  match awaiting, t, stack with
  | .value, t, stack => beginValue t stack
  | .itemOrEnd, .closeList, .items done :: stack => .ok (deliver (.list done.reverse) stack)
  | .itemOrEnd, t, stack => beginValue t stack
  | .keyOrEnd _, .closeMap, stack => .ok (deliver (.map []) stack)
  | .keyOrEnd done, .text cs, stack => .ok (.entries done (String.ofList cs) :: stack, .colon)
  | .key done, .text cs, stack => .ok (.entries done (String.ofList cs) :: stack, .colon)
  | .colon, .colon, stack => .ok (stack, .value)
  | .separator, .comma, .items done :: stack => .ok (.items done :: stack, .value)
  | .separator, .closeList, .items done :: stack => .ok (deliver (.list done.reverse) stack)
  | .separator, .comma, .entries done _ :: stack => .ok (stack, .key done)
  | .separator, .closeMap, .entries done _ :: stack => .ok (deliver (closedMap done) stack)
  | _, _, _ => .error .malformed

/-- The value that tokens denote which continue the given state. -/
def resume (stack : List Frame) (awaiting : Awaiting) : List Token → Except ReadError Value
  | [] =>
    match awaiting with
    | .ending v => .ok v
    | _ => .error .malformed
  | t :: ts =>
    match advance stack awaiting t with
    | .ok (stack, awaiting) => resume stack awaiting ts
    | .error e => .error e

/-- The value that tokens denote. -/
def readTokens (ts : List Token) : Except ReadError Value := resume [] .value ts

/-- The value that a text denotes. -/
def read (cs : List Char) : Except ReadError Value := readTokens (tokens cs)

end CommandScript.Json
