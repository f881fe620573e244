import CommandScript.BuiltIn
import CommandScript.Dispatch.Calls
import CommandScript.Result

/-!
# Interpreters

An interpreter evaluates command strings, each as a dispatch of its own. It has a registry of
functions that all dispatches share; a dispatch may bring functions of its own, which are layered
over the registry. Diagnostics go into the output or are kept apart from it, as the settings say,
and listeners are told of those that are kept apart.

## Main definitions

- `CommandScript.Interpreter` — settings, functions and listeners
- `CommandScript.Interpreter.create` — an interpreter with built-in and further functions
- `CommandScript.Invocation` — a command string with what it is evaluated for
- `CommandScript.Interpreter.handle` — what comes of a command string
- `CommandScript.Interpreter.evaluate` — what there is to show of it
-/

namespace CommandScript

/-- The version of the runtime, one half. -/
def runtimeVersion : Value := .float (Http.ratio 1 2)

/-- An interpreter. -/
structure Interpreter where
  settings : Settings
  functions : Handle
  /-- Those who are told of diagnostics, in this order. -/
  listeners : List String

/-- A command string with the event that it answers, the name under which it is known, and the
functions that it brings. -/
structure Invocation where
  source : List Char
  event : Value
  command : Option String
  functions : List (Draft Callback)

namespace Interpreter

/-- Writes a note outside of all dispatches. -/
def note (level : Log.Level) (source : Log.Source) (message : String) : Program Questions Unit :=
  Question.ask (.effect none (.log ⟨level, source, message⟩))

/-- Writes what a registry tells to the log. -/
def noteAll : List Notice → Program Questions Unit
  | [] => return ()
  | n :: ns => do
    note .debug .registry n.message
    noteAll ns

/-- Registers functions. -/
def register (functions : Handle) (c : Change Callback) : Program Questions (Option Failure) := do
  let (notices, failure) ← Question.ask (.change functions c)
  noteAll notices
  return failure

/-- Registers the built-in functions that are not disabled. -/
def registerBuiltIn [Yaml.Loader] [Value.Attributes] (functions : Handle) (disabled : List String) :
    Program Questions (Option Failure) := do
  let callbacks := Registries.enabled BuiltIn.all disabled
  match ← register functions (Registries.additions callbacks) with
  | some e => return some e
  | none => do
    note .debug .runtime ("loaded " ++ toString callbacks.length ++ " built-in functions")
    return none

/-- An interpreter whose functions are those built in, if they are wanted, and further ones. -/
def create [Yaml.Loader] [Value.Attributes] (settings : Settings) (functions : Handle)
    (wantsBuiltIn : Bool) (native : List (Draft Callback)) (listeners : List String) :
    Program Questions (Except Failure Interpreter) := do
  let failed ← if wantsBuiltIn then registerBuiltIn functions settings.disabledFunctions
    else pure none
  match failed with
  | some e => return .error e
  | none =>
    match ← if native.isEmpty then pure none else register functions (.add native) with
    | some e => return .error e
    | none => return .ok ⟨settings, functions, listeners⟩

/-- Changes the functions of an interpreter. -/
def change (i : Interpreter) (c : Change Callback) : Program Questions (Option Failure) :=
  register i.functions c

/-- What a dispatch of an interpreter takes place in. -/
def scope (i : Interpreter) (functions : Handle) (v : Invocation) : Scope where
  functions := functions
  settings := i.settings
  event := v.event
  hasStore := true
  command := v.command
  logged := some v.command

/-- Puts a diagnostic into the output, or keeps it apart. -/
def route (scope : Scope) (function diagnostic : String) : Evaluation (Option String) := do
  if scope.settings.textErrors then return some diagnostic
  else
    Evaluation.report scope function diagnostic
    return none

/-- A name that is given and not empty. -/
def given (name : Option String) : Option String := name.filter (· ≠ "")

/-- The result of a dispatch that was ended on purpose. -/
def aborted (scope : Scope) (reason : String) (diagnostic function : Option String) :
    Evaluation Result := do
  let output ← match diagnostic with
    | some text => route scope (function.getD "") text
    | none => pure none
  return ⟨.aborted, output, diagnostic, some reason, (← get).effects, none⟩

/-- The result of a dispatch that is malformed. -/
def malformed (scope : Scope) (e : Script.ParseError) : Evaluation Result := do
  let function := ((given e.function).or (given scope.command)).getD "parser"
  let diagnostic := Diagnostic.text function ("ParseError: " ++ e.message) (some e.line)
  Evaluation.note scope .warning .runtime
    ("parse error in " ++ Log.shownName scope.command ++ ": " ++ e.message)
  let output ← route scope function diagnostic
  return ⟨.error, output, some diagnostic, some Result.malformed, (← get).effects, none⟩

/-- The result of a dispatch that failed. There is none if the failure cannot be worded. -/
def failed (e : Failure) (function : Option String) : Evaluation (Except Failure Result) := do
  let place := ((given function).map (" in " ++ ·)).getD ""
  match e.message with
  | .error cause => return .error cause
  | .ok wording =>
    let message := e.kind ++ place ++ ": " ++ wording
    return .ok ⟨.error, none, some message, some Result.failed, (← get).effects, some e⟩

/-- The result of a dispatch, or the failure that comes of wording how it failed. -/
def conclude (scope : Scope) : Outcome → Evaluation (Except Failure Result)
  | .ok text => do return .ok ⟨.success, some text, none, none, (← get).effects, none⟩
  | .error (.aborted reason diagnostic function) => do
    return .ok (← aborted scope reason diagnostic function)
  | .error (.fault (.parse e) _ _) => do return .ok (← malformed scope e)
  | .error (.fault e function _) => failed e function

/-- A failure that is not that of a reader is one that no one expected. -/
theorem conclude_fault {scope : Scope} {e : Failure} (other : e.isParse = false)
    (function : Option String) (traced : Bool) :
    conclude scope (.error (.fault e function traced)) = failed e function := by
  cases e with
  | parse e => cases other
  | _ => rfl

/-- Tells listeners of a diagnostic. -/
def notify (diagnostic : SideEffect) : List String → Evaluation Unit
  | [] => return ()
  | l :: ls => do
    Evaluation.ask (.notify l diagnostic)
    notify diagnostic ls

/-- Tells listeners of diagnostics, one after the other. -/
def notifyAll (listeners : List String) : List SideEffect → Evaluation Unit
  | [] => return ()
  | s :: rest => do
    notify s listeners
    notifyAll listeners rest

/-- Tells listeners of the result of a dispatch, if there is one. -/
def tell (scope : Scope) (listeners : List String) :
    Except Failure Result → Evaluation (Except Failure Result)
  | .error e => return .error e
  | .ok result => do
    notifyAll listeners result.errors
    Evaluation.note scope .debug .runtime ("dispatch finished: " ++ result.status.word)
    return .ok result

/-- Evaluates a command string and concludes. -/
def dispatch (scope : Scope) (listeners : List String) (source : List Char) :
    Evaluation (Except Failure Result) := do
  Evaluation.note scope .debug .runtime "dispatch start"
  -- Every dispatch starts afresh: with no call inside another and on the first line.
  let outcome ← Evaluation.render scope scope.settings.maxDepth source 1
  tell scope listeners (← conclude scope outcome)

/-- Evaluates a command string with the functions that can be seen from a registry. -/
def run (i : Interpreter) (functions : Handle) (v : Invocation) :
    Program Questions (Except Failure Result) := do
  return (← (dispatch (i.scope functions v) i.listeners v.source).run Dispatch.start).1

/-- What comes of a command string. There is no result where functions it brings are refused, or
where the dispatch failed in a way that cannot be worded. -/
def handle (i : Interpreter) (v : Invocation) : Program Questions (Except Failure Result) := do
  if v.functions.isEmpty then i.run i.functions v
  else
    match ← Question.ask (.layer i.functions v.functions) with
    | .error e => return .error e
    | .ok functions => i.run functions v

/-- Why there is nothing to show of a command string. -/
inductive Refusal where
  /-- There is no result: functions that it brings are refused, or a failure cannot be worded. -/
  | noResult (e : Failure)
  /-- The dispatch failed in a way that no one expected. -/
  | fault (r : Result)

/-- The text that there is to show of a command string, if there is any. -/
def evaluate (i : Interpreter) (v : Invocation) :
    Program Questions (Except Refusal (Option String)) := do
  match ← i.handle v with
  | .error e => return .error (.noResult e)
  | .ok r => return if r.isFault then .error (.fault r) else .ok r.output

end Interpreter

end CommandScript
