import CommandScript.Effect
import CommandScript.Function.Descriptor
import CommandScript.Script.Scalar

/-!
# Routines

What a callback does when its function is called, as a finite program. It may read the arguments of
the call, look at the call and the dispatch around it, end the dispatch, leave messages, remember
values for the rest of the dispatch, change the registered functions, and ask the world. It may
ignore that the dispatch has ended and go on.

## Main definitions

- `CommandScript.Diagnostic.text` — what is wrong with a call, with its place
- `CommandScript.ordinal` — the ordinal of a number
- `CommandScript.Halt` — how a dispatch ends early
- `CommandScript.Reply` — what a routine returns
- `CommandScript.View` — what a routine sees of its call
- `CommandScript.Change` — a change to a registry
- `CommandScript.Routine` — the programs
- `CommandScript.Callback` — a routine as the callback of a function
-/

namespace CommandScript

/-- A diagnostic: the function, what is wrong, and the line where it is known. -/
def Diagnostic.text (function details : String) (line : Option Int) : String :=
  let shown := (line.map Numeral.intTextUnlimited).getD "?"
  "Error[" ++ function ++ "]: " ++ details ++ "\n\x7b line: " ++ shown ++ ", command: " ++ function
    ++ " \x7d"

/-- What follows a number in its ordinal. The numbers from ten to twenty of each hundred all have
the same ending. -/
def ordinalEnding (n : Int) : String :=
  if 10 ≤ n % 100 ∧ n % 100 ≤ 20 then "th"
  else if n % 10 = 1 then "st"
  else if n % 10 = 2 then "nd"
  else if n % 10 = 3 then "rd"
  else "th"

/-- The ordinal of a number. -/
def ordinal (n : Int) : String := Numeral.intTextUnlimited n ++ ordinalEnding n

/-- How a dispatch ends early: on purpose, perhaps with a diagnostic, or by a failure. A failure is
traced where it was raised while a call ran. -/
inductive Halt where
  | aborted (reason : String) (diagnostic function : Option String)
  | fault (cause : Failure) (function : Option String) (traced : Bool)

/-- The literal of an early end in messages; failures are not spelled out. -/
def Halt.literal : Halt → String
  | .aborted reason diagnostic function =>
    "Aborted(reason=" ++ Text.quoted reason ++ ", diagnostic=" ++ Log.shownName diagnostic ++
      ", function=" ++ Log.shownName function ++ ")"
  | .fault .. => "Fault"

/-- What comes of the attempt to put an early end into words, where it fails. -/
def Halt.unworded? : Halt → Option Failure
  | .fault e _ _ => e.unworded?
  | .aborted .. => none

/-- What a routine returns. -/
inductive Reply where
  | value (v : Value)
  | halt (h : Halt)

/-- What a routine sees of its call. -/
structure View where
  /-- The name of the function, with a dollar sign. -/
  name : String
  line : Int
  raw : List Char
  arguments : List (List Char)
  event : Value
  hasStore : Bool
  command : Option String
  isAborted : Bool

/-- The literal of a view in messages. -/
def View.literal (v : View) : String :=
  "<Context " ++ v.name ++ " argc=" ++ toString v.arguments.length ++ " line=" ++ toString v.line ++
    ">"

/-- A view as a mapping. -/
def View.fields (v : View) : List (String × Value) :=
  [("name", .text v.name), ("line", .int v.line), ("raw", .text (String.ofList v.raw)),
    ("arguments", .tuple (v.arguments.map fun a => .text (String.ofList a))),
    ("len", .int v.arguments.length), ("command", (v.command.map Value.text).getD .null),
    ("aborted", .bool v.isAborted), ("event", v.event), ("db", .bool v.hasStore)]

/-- A change to a registry. -/
inductive Change (C : Type) where
  | add (drafts : List (Draft C))
  | ensure (drafts : List (Draft C))
  | edit (drafts : List (Draft C))
  | remove (names : List Value)

/-- The programs that callbacks run, over a type of callbacks and a type of results. -/
inductive Routine (C α : Type) where
  | done (a : α)
  | raise (cause : Failure)
  /-- Reads an argument; there is none past the last one, and after an end of the dispatch. -/
  | argument (index : Int) (next : Option String → Routine C α)
  | look (next : View → Routine C α)
  /-- Ends the dispatch, with a diagnostic where details are given. -/
  | abort (reason : String) (details : Option String) (next : Halt → Routine C α)
  | emit (message : Value) (topics : List String) (next : Routine C α)
  | recall (key : String) (next : Option Value → Routine C α)
  | remember (key : String) (v : Value) (next : Routine C α)
  /-- Changes the functions of the dispatch; a failure is given back. -/
  | change (c : Change C) (next : Option Failure → Routine C α)
  | effect (q : Effect) (next : q.Answer → Routine C α)

/-- A routine as the callback of a function. -/
inductive Callback where
  | of (body : Routine Callback Reply)

/-- The routine of a callback. -/
def Callback.body : Callback → Routine Callback Reply
  | .of r => r

namespace Routine

variable {C α β : Type}

/-- One routine after the other; a failure ends both. -/
def bind : Routine C α → (α → Routine C β) → Routine C β
  | .done a, f => f a
  | .raise e, _ => .raise e
  | .argument i next, f => .argument i fun r => bind (next r) f
  | .look next, f => .look fun r => bind (next r) f
  | .abort reason details next, f => .abort reason details fun r => bind (next r) f
  | .emit m topics next, f => .emit m topics (bind next f)
  | .recall k next, f => .recall k fun r => bind (next r) f
  | .remember k v next, f => .remember k v (bind next f)
  | .change c next, f => .change c fun r => bind (next r) f
  | .effect q next, f => .effect q fun r => bind (next r) f

instance : Monad (Routine C) where
  pure := .done
  bind := bind

/-- A result or a failure of the given sort. -/
def lift {ε : Type} (wrap : ε → Failure) : Except ε α → Routine C α
  | .ok a => .done a
  | .error e => .raise (wrap e)

/-- Asks a question to the world. -/
def ask (q : Effect) : Routine C q.Answer := .effect q .done

/-- Runs a program that asks the world. -/
def ofProgram : Program Effects α → Routine C α
  | .done a => .done a
  | .ask q next => .effect q fun r => ofProgram (next r)

/-- What the routine sees of its call. -/
def view : Routine C View := .look .done

/-- Whether the dispatch has ended. -/
def isAborted : Routine C Bool := .look fun v => .done v.isAborted

/-- The number of arguments. -/
def argumentCount : Routine C Nat := .look fun v => .done v.arguments.length

/-- The text of an argument, where it can be read. -/
def argument? (index : Int) : Routine C (Option String) := .argument index .done

/-- The text of an argument, or another one in its place. -/
def argumentOr (index : Int) (default : String) : Routine C String :=
  .argument index fun s => .done (s.getD default)

/-- The value of an argument, where it can be read. -/
def value? (index : Int) : Routine C (Option Value) :=
  .argument index fun s =>
    match s with
    | none => .done none
    | some s => lift .conversion
        (((Script.scalar s).mapError (Numeral.IntError.conversion (Text.quoted s))).map some)

/-- The value of an argument, or another one in its place. -/
def valueOr (index : Int) (default : Value) : Routine C Value := do
  return (← value? index).getD default

/-- The texts of the first arguments, in order. -/
def arguments : (count : Nat) → Routine C (List (Option String))
  | 0 => .done []
  | n + 1 => do
    let before ← arguments n
    let s ← argument? n
    return before ++ [s]

/-- The texts of all arguments, in order. -/
def allArguments : Routine C (List (Option String)) := do arguments (← argumentCount)

/-- The values of the first arguments, in order. -/
def values : (count : Nat) → Routine C (List Value)
  | 0 => .done []
  | n + 1 => do
    let before ← values n
    let v ← valueOr n .null
    return before ++ [v]

/-- The values of all arguments, in order. -/
def allValues : Routine C (List Value) := do values (← argumentCount)

/-- Ends the dispatch with a diagnostic of the given wording. -/
def signal (reason details : String) : Routine C Halt := .abort reason (some details) .done

/-- Ends the dispatch because of an error. -/
def signalError (message : String) : Routine C Halt := signal "error" message

/-- Ends the dispatch because a variable is missing. -/
def signalMissingVariable (name : String) : Routine C Halt :=
  signal "variable" ("Invalid variable " ++ name ++ " not found")

/-- Ends the dispatch because a table is missing. -/
def signalMissingTable (name : String) : Routine C Halt :=
  signal "table" ("Invalid table " ++ name ++ " not found")

/-- Ends the dispatch without a diagnostic. -/
def stop (reason : String) : Routine C Halt := .abort reason none .done

/-- Whether enough arguments were passed, or exactly as many as expected; if not, the dispatch
ends. -/
def checkCount (expected : Int) (exact : Bool) : Routine C Bool := do
  let count ← argumentCount
  if (count : Int) < expected || (exact && (count : Int) ≠ expected) then
    let _ ← signal "arity"
      ("Expected " ++ Numeral.intTextUnlimited expected ++ " arguments but got " ++ toString count)
    return false
  else return true

/-- The parts of a text between bars, without blanks around them. -/
def alternatives (expected : String) : List String :=
  (Text.splitAt '|' expected.toList).map fun p => String.ofList (Text.trim p)

/-- The names among some that are no kinds, each once and in order. -/
def unknownKinds (names : List String) : List String :=
  ((names.filter fun n => (Kind.named? n).isNone).eraseDups).mergeSort fun a b => !(b < a)

/-- Whether values, the first of which has the given position, are of the kinds expected of them;
if one is not, the dispatch ends. -/
def checkKindsFrom (name : String) (position : Nat) : List Value → List String → Routine C Bool
  | v :: vs, expected :: rest => do
    let allowed := alternatives expected
    let unknown := unknownKinds allowed
    if !unknown.isEmpty then .raise (.unknownKinds unknown name)
    else if allowed.contains v.kind.name then checkKindsFrom name (position + 1) vs rest
    else do
      let shown ← lift .conversion v.literalText
      let _ ← signal "type"
        ("The " ++ ordinal position ++ " argument expects " ++ expected ++ ", got " ++
          v.kind.name ++ " (" ++ shown ++ ")")
      return false
  | _, _ => return true

/-- Whether values are of the kinds expected of them; if one is not, the dispatch ends. -/
def checkKinds (vs : List Value) (kinds : List String) : Routine C Bool := do
  checkKindsFrom (← view).name 1 vs kinds

/-- Asks the store of variables. -/
def store (q : Store.Query) : Routine C Value := .effect (.store q) (lift .unfitKey)

/-- Ends the dispatch and returns how. -/
def ending (r : Routine C Halt) : Routine C Reply := do return .halt (← r)

/-- Returns a value. -/
def returning (v : Value) : Routine C Reply := .done (.value v)

/-- Returns nothing. -/
def nothing : Routine C Reply := returning .null

end Routine

end CommandScript
