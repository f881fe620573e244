import CommandScript.Dispatch.Reading
import CommandScript.Printed
import CommandScript.Template.Rendering

/-!
# Evaluating command strings

A command string is evaluated from left to right: literal text gives itself, and a call gives the
printed result of its function. Arguments are evaluated by the functions that read them. The first
early end is what everything around it gives, and nothing more is evaluated after it.

## Main definitions

- `CommandScript.Evaluation.scripted` — calling a function whose body is a command string
- `CommandScript.Evaluation.call` — evaluating a call
- `CommandScript.Evaluation.render` — evaluating a command string

## Design notes

Calls are evaluated by recursion on how many more calls may be inside one another, which is also
what bounds the recursion of functions into themselves.
-/

namespace CommandScript

namespace Evaluation

/-- The values of parameters, in a form in which they stand for themselves in a command string. A
parameter without an argument is left out. -/
def bindings : List Value → List (Option String) →
    Except UnfitKey (List (Value × Value))
  | p :: ps, s :: ss => do
    p.checkKey
    let rest ← bindings ps ss
    return (p, .text (String.ofList (Script.escape (s.getD "").toList))) :: rest
  | _, _ => .ok []

/-- The body of a function with the texts of its arguments put in. -/
def body (scope : Scope) (code : Value) (params : List Value) (texts : List (Option String)) :
    Evaluation (Except Failure (List Char)) :=
  match bindings params texts with
  | .error e => return .error (.unfitKey e)
  | .ok bound => do
    let filled ← StateT.lift <|
      (Template.render code (Value.ofEntries bound)).run.relay fun path =>
        (Question.effect scope.logged (.openFile path)).ask
    return filled.mapError .template

/-- Calls a function whose body is a command string. -/
def scripted (render : List Char → Int → Evaluation Outcome) (scope : Scope) (c : Script.Call)
    (code : Value) (params : List Value) : Evaluation (Except Failure Reply) := do
  let (texts, _) ← routine render scope c [] Routine.allArguments
  -- An end while the arguments were read counts before a body that cannot be filled in.
  match (← get).halted, texts with
  | some h, _ => return .ok (.halt h)
  | none, .error e => return .error e
  | none, .ok texts =>
    match ← body scope code params texts with
    | .error e => return .error e
    | .ok source =>
      match ← render source c.line with
      | .ok s => return .ok (.value (.text s))
      | .error h => return .ok (.halt h)

/-- Does what a function does when it is called. -/
def invoke (render : List Char → Int → Evaluation Outcome) (scope : Scope) (c : Script.Call)
    (d : Descriptor Callback) : Evaluation (Except Failure Reply) :=
  match d with
  | .native _ callback _ => do return (← routine render scope c [] callback.body).1
  | .scripted _ code params _ => scripted render scope c code params
  | .other _ => return .error (.noFunction d.literal)

/-- Ends the dispatch because a call failed. -/
def fail (scope : Scope) (c : Script.Call) (e : Failure) : Evaluation Outcome := do
  note scope .error .evaluator
    ("unexpected error in " ++ c.shownName ++ " (line " ++ toString c.line ++ ")")
  return .error (← halt scope (.fault e (some c.shownName) true))

/-- What a call gives once its function has returned. -/
def finish (scope : Scope) (c : Script.Call) : Except Failure Reply → Evaluation Outcome
  | .error e => fail scope c e
  | .ok (.halt h) => do return .error (← halt scope h)
  | .ok (.value v) => do
    -- A function may have gone on after the dispatch ended; then its value does not count.
    match (← get).halted, v.printed with
    | some h, _ => return .error h
    | none, .ok s => return .ok s
    | none, .error e => fail scope c (.printing e)

/-- Does what a function does when it is called, up to what the call gives. -/
def perform (render : List Char → Int → Evaluation Outcome) (scope : Scope) (c : Script.Call)
    (d : Descriptor Callback) : Evaluation Outcome := do
  let reply ← invoke render scope c d
  observe (.returned c reply)
  finish scope c reply

/-- Evaluates a call of a known function. -/
def enter (render : List Char → Int → Evaluation Outcome) (scope : Scope) (c : Script.Call)
    (d : Descriptor Callback) : Evaluation Outcome := do
  modify fun s => { s with depth := s.depth + 1 }
  observe (.entering c d)
  let outcome ← perform render scope c d
  modify fun s => { s with depth := s.depth - 1 }
  observe (.leaving c outcome)
  return outcome

/-- Refuses a call inside too many others. -/
def refuse (scope : Scope) (c : Script.Call) : Evaluation Outcome := do
  let limit : Int := scope.settings.maxDepth
  note scope .error .evaluator
    (c.shownName ++ " on line " ++ toString c.line ++ ": " ++ Failure.tooDeep limit)
  return .error (← halt scope (.fault (.depth limit) (some c.shownName) false))

/-- Evaluates a call of a name under which there is no function: to a diagnostic, or to nothing
while the diagnostic is kept apart. -/
def unknown (scope : Scope) (c : Script.Call) : Evaluation Outcome := do
  let diagnostic :=
    Diagnostic.text c.shownName ("Unknown function " ++ c.shownName) (some c.line)
  if scope.settings.textErrors then
    note scope .warning .evaluator
      ("unknown function " ++ c.shownName ++ " on line " ++ toString c.line)
    return .ok diagnostic
  else
    report scope c.shownName diagnostic
    return .ok ""

/-- Evaluates segments, given how calls are evaluated. -/
def segments (call : Script.Call → Evaluation Outcome) : List Script.Segment → Evaluation Outcome
  | [] => return .ok ""
  | .literal raw :: rest => do
    return (← segments call rest).map (String.ofList (Script.unescape raw) ++ ·)
  | .call c :: rest => do
    match ← call c with
    | .error h => return .error h
    | .ok s => return (← segments call rest).map (s ++ ·)

/-- Evaluates what a command string was read as, given how calls are evaluated. -/
def parsed (call : Script.Call → Evaluation Outcome) (scope : Scope) :
    Except Script.ParseError (List Script.Segment) → Evaluation Outcome
  | .error e => do return .error (← halt scope (.fault (.parse e) e.function false))
  | .ok parts => segments call parts

/-- Evaluates a command string, given how calls are evaluated. -/
def source (call : Script.Call → Evaluation Outcome) (scope : Scope) (cs : List Char)
    (line : Int) : Evaluation Outcome := do
  match (← get).halted with
  | some h => return .error h
  | none =>
    observe (.rendering cs line)
    let outcome ← parsed call scope (Script.segments cs line)
    observe (.rendered cs line outcome)
    return outcome

/-- The function that is found under the name of a call. -/
def find (scope : Scope) (c : Script.Call) : Evaluation (Option (Descriptor Callback)) :=
  ask (.find scope.functions (FunctionName.key (String.ofList c.name)))

/-- Evaluates a call, inside which so many others may be. -/
def call (scope : Scope) : (remaining : Nat) → Script.Call → Evaluation Outcome
  | 0, c => do
    match ← find scope c with
    | none => unknown scope c
    | some _ => refuse scope c
  | n + 1, c => do
    match ← find scope c with
    | none => unknown scope c
    | some d => enter (source (call scope n) scope) scope c d

/-- Evaluates a command string, inside whose calls so many others may be. -/
def render (scope : Scope) (remaining : Nat) : List Char → Int → Evaluation Outcome :=
  source (call scope remaining) scope

end Evaluation

end CommandScript
