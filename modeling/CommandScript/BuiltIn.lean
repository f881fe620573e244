import CommandScript.Function.Routine
import CommandScript.Script.Condition
import CommandScript.Value.Path

/-!
# Built-in functions

The functions that every interpreter offers unless they are disabled. A function first checks how
many arguments it was given and reads those that it needs; if the dispatch has ended by then, it
does nothing of its own.

## Main definitions

- `CommandScript.BuiltIn.all` — the built-in functions under their names
- `CommandScript.BuiltIn.random`, `sum`, … — each of them
-/

namespace CommandScript.BuiltIn

open Routine

variable {C : Type}

/-- Goes on if enough arguments were passed and returns nothing otherwise. -/
def withCount (expected : Int) (exact : Bool) (go : Routine C Reply) : Routine C Reply := do
  if ← checkCount expected exact then go else nothing

/-- Goes on unless the dispatch has ended. -/
def unlessAborted (go : Routine C Reply) : Routine C Reply := do
  if ← isAborted then nothing else go

/-- Goes on unless the dispatch has ended or the values are not all numbers. -/
def withNumbers (vs : List Value) (go : Routine C Reply) : Routine C Reply :=
  unlessAborted do
    if ← checkKinds vs (vs.map fun _ => Kind.number.name) then go else nothing

/-- A whole number from a number. -/
def wholeNumber (v : Value) : Routine C Int := lift .conversion v.toInt

/-- The name under which a drawn number is remembered. -/
def drawKey (low high : Int) : Except ConversionError String := do
  return "random:" ++ (← Numeral.intText low) ++ "_" ++ (← Numeral.intText high)

/-- Draws a number between bounds, and remembers it if asked to. -/
def draw (low high : Int) (key : String) (remembered : Bool) : Routine C Reply := do
  let n ← ask (.draw low high)
  if remembered then .remember key (.int n) (returning (.int n)) else returning (.int n)

/-- A number between two bounds. It is the same for the same bounds throughout a dispatch, unless
the third argument says otherwise. -/
def random : Routine C Reply := withCount 2 false do
  let low ← valueOr 0 .null
  let high ← valueOr 1 .null
  let remembered := (← valueOr 2 (.bool true)).isTruthy
  withNumbers [low, high] do
    let low ← wholeNumber low
    let high ← wholeNumber high
    if high < low then
      let lowText ← lift .conversion (Numeral.intText low)
      let highText ← lift .conversion (Numeral.intText high)
      ending (signalError ("Minimum " ++ lowText ++ " is greater than maximum " ++ highText))
    else
      let key ← lift .conversion (drawKey low high)
      if remembered then
        match ← .recall key .done with
        | some v => returning v
        | none => draw low high key true
      else draw low high key false

/-- The sum of two numbers: a whole number if both are whole numbers, and else a double. -/
def plus (v w : Value) : Except ConversionError Value :=
  match v, w with
  | .float x, w => do return .float (x.add (← w.toFloat))
  | v, .float y => do return .float ((← v.toFloat).add y)
  | v, w => do return .int ((← v.toInt) + (← w.toInt))

/-- The sum of numbers, from the first to the last. -/
def total (v : Value) : List Value → Except ConversionError Value
  | [] => .ok v
  | w :: ws => do total (← plus v w) ws

/-- The sum of all arguments. -/
def sum : Routine C Reply := withCount 1 false do
  let vs ← allValues
  withNumbers vs do returning (← lift .conversion (total (.int 0) vs))

/-- The second argument if the condition holds, and the third if it does not. The other one is not
evaluated. -/
def choose : Routine C Reply := withCount 2 false do
  let condition ← argumentOr 0 ""
  unlessAborted do
    let truth ← lift .conversion
      ((Script.condition condition.toList).mapError
        (Numeral.IntError.conversion (Text.quoted condition)))
    match truth with
    | none => ending (signalError ("Invalid condition " ++ Text.quoted condition))
    | some b => returning (.text (← argumentOr (if b then 1 else 2) ""))

/-- Ends the dispatch with a message. -/
def error : Routine C Reply := do
  let message ← argumentOr 0 ""
  unlessAborted (ending (signalError message))

/-- Ends the dispatch in silence. -/
def halt : Routine C Reply := ending (stop "stop")

/-- The topic of messages that are sent. -/
def sendTopic : String := "send"

/-- Leaves a message to be sent. -/
def sendMessage : Routine C Reply := withCount 1 false do
  let s ← argumentOr 0 ""
  unlessAborted (.emit (.text s) [sendTopic] nothing)

/-- The table that an argument names, or the first one. -/
def tableName (index : Int) : Routine C Value := do
  let s ← argumentOr index ""
  if s = "" then store .defaultTable else return .text s

/-- Goes on if there is a variable in a table and ends the dispatch otherwise. -/
def withVariable (table : Value) (name : String) (go : Routine C Reply) : Routine C Reply := do
  if (← store (.hasTable table)).isTruthy then
    if (← store (.has table (.text name))).isTruthy then go
    else ending (signalMissingVariable name)
  else ending (signalMissingTable table.plain)

/-- The value of a variable. -/
def getVariable : Routine C Reply := withCount 1 false do
  let name ← argumentOr 0 ""
  let table ← tableName 1
  unlessAborted (withVariable table name do returning (← store (.get table (.text name))))

/-- Sets a variable that exists. -/
def setVariable : Routine C Reply := withCount 2 false do
  let name ← argumentOr 0 ""
  let value ← argumentOr 1 ""
  let table ← tableName 2
  unlessAborted (withVariable table name do
    let _ ← store (.set table (.text name) (.text value))
    nothing)

/-- The list or mapping that a text encodes, if it encodes one. -/
def object? (s : String) : Routine C (Option Value) :=
  lift .conversion (Payload.readObject s.toList)

/-- Whether a text encodes a list or a mapping. -/
def isObject : Routine C Reply := withCount 1 false do
  let s ← argumentOr 0 ""
  unlessAborted do returning (.bool (← object? s).isSome)

/-- The position of a character that is counted from one, or from the end by a negative number. -/
def position (index : Value) : Except ConversionError Int := do
  let n ← index.toInt
  match index.compareNumbers? (.int 1) with
  | some .lt => return n
  | _ => return n - 1

/-- The character at a position, negative ones counting from the end. -/
def charAt? (cs : List Char) (i : Int) : Option Char :=
  if 0 ≤ i then cs[i.toNat]?
  else if -(cs.length : Int) ≤ i then cs[(i + cs.length).toNat]?
  else none

/-- The character of a text at a place. -/
def stringAt : Routine C Reply := withCount 2 true do
  let s ← argumentOr 0 ""
  let index ← valueOr 1 .null
  withNumbers [index] do
    let i ← lift .conversion (position index)
    match charAt? s.toList i with
    | some c => returning (.text (String.ofList [c]))
    | none => nothing

/-- Whether a text ends with another. -/
def endsWith : Routine C Reply := withCount 2 false do
  let s ← argumentOr 0 ""
  let ending ← argumentOr 1 ""
  unlessAborted (returning (.bool (ending.toList.isSuffixOf s.toList)))

/-- A text without blanks around it. -/
def trimmed (s : String) : String := String.ofList (Text.trim s.toList)

section Documents

variable [Value.Attributes]

/-- What stands in a value at the end of a path. -/
def follow (v : Value) (path : String) : Routine C Value :=
  lift .conversion (v.follow (Text.trim path.toList))

/-- What stands in the event at the end of a path. -/
def event : Routine C Reply := withCount 1 false do
  let path ← argumentOr 0 ""
  unlessAborted do returning (← follow (← view).event path)

/-- Returns what a request gave, or what stands in it at the end of a path. A failed exchange ends
the dispatch. -/
def received (failure : String) (path : Option String) (r : Except Http.Error Value) :
    Routine C Reply :=
  match r with
  | .error e =>
    if e.isExchange then ending (signalError (failure ++ ": " ++ e.message)) else .raise (.http e)
  | .ok v =>
    match path.filter (· ≠ "") with
    | none => returning v
    | some p => do returning (← follow v p)

variable [Yaml.Loader]

/-- Fetches a document. -/
def fetch : Routine C Reply := withCount 1 false do
  let url ← argumentOr 0 ""
  let path ← argument? 1
  unlessAborted do
    let r ← ofProgram (Http.get (trimmed url) [])
    received ("Failed to fetch " ++ url) path r

/-- The header fields for a body: a list or a mapping is announced as such. -/
def bodyHeaders (isObject : Bool) : Value :=
  .map (if isObject then [(.text "Content-Type", .text "application/json")] else [])

/-- Sends a document. -/
def post : Routine C Reply := withCount 2 false do
  let url ← argumentOr 0 ""
  let body ← argumentOr 1 ""
  let path ← argument? 2
  unlessAborted do
    let headers := bodyHeaders (← object? body).isSome
    let r ← ofProgram (Http.post (trimmed url) [(.text "headers", headers)] (.text body))
    received ("Failed to post to " ++ url) path r

/-- The built-in functions under the words of their names. -/
def routines : List (String × Routine Callback Reply) :=
  [("ends_with", endsWith), ("error", error), ("event", event), ("fetch", fetch),
    ("get_var", getVariable), ("if", choose), ("is_object", isObject), ("post", post),
    ("random", random), ("send_message", sendMessage), ("set_var", setVariable),
    ("stop", halt), ("string_at", stringAt), ("sum", sum)]

/-- The built-in functions under their names. -/
def all : Table Callback := routines.map fun r => (FunctionName.ofWords r.1, .of r.2)

end Documents

end CommandScript.BuiltIn
