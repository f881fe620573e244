import CommandScript.Function.Registry
import CommandScript.Settings.Basic

/-!
# Dispatches

The evaluation of one command string. It keeps how it ended early, if it did, the messages for the
host, what functions remembered, and how many calls are being evaluated. The first end counts;
later ones change nothing.

## Main definitions

- `CommandScript.Outcome` — what evaluation gives
- `CommandScript.SideEffect` — a message for the host
- `CommandScript.Dispatch` — what changes during a dispatch
- `CommandScript.Activity` — what an observer is told
- `CommandScript.Question`, `CommandScript.Questions` — what a dispatch asks of its surroundings
- `CommandScript.Scope` — what stays the same during a dispatch
- `CommandScript.Evaluation` — computations of a dispatch
- `CommandScript.Evaluation.halt` — ending a dispatch
-/

namespace CommandScript

/-- What evaluation gives: a text, or the end of the dispatch. -/
abbrev Outcome := Except Halt String

/-- A message for the host. A diagnostic names its function and the command. -/
structure SideEffect where
  topics : List String
  message : Value
  origin : Option (String × Option String)

/-- The topic of diagnostics. -/
def SideEffect.errorTopic : String := "function-error"

/-- Whether a message is a diagnostic. -/
def SideEffect.isError (s : SideEffect) : Bool := s.topics.contains errorTopic

/-- A message as a mapping, as hosts get it. -/
def SideEffect.fields (s : SideEffect) : List (String × Value) :=
  let topics := ("topics", Value.list (s.topics.map .text))
  match s.origin with
  | none => [topics, ("message", s.message)]
  | some (function, command) =>
    [topics, ("function", .text function), ("command", (command.map Value.text).getD .null),
      ("message", s.message)]

/-- What changes during a dispatch. -/
structure Dispatch where
  halted : Option Halt
  effects : List SideEffect
  cache : Table Value
  depth : Nat

/-- A dispatch in which nothing has happened. -/
def Dispatch.start : Dispatch := ⟨none, [], [], 0⟩

/-- Whether a dispatch has ended early. -/
def Dispatch.isHalted (d : Dispatch) : Bool := d.halted.isSome

/-- What an observer of a dispatch is told. -/
inductive Activity where
  /-- A command string, or an argument or a body, is evaluated from a line on. -/
  | rendering (source : List Char) (line : Int)
  | rendered (source : List Char) (line : Int) (outcome : Outcome)
  /-- A known function is called. -/
  | entering (c : Script.Call) (function : Descriptor Callback)
  /-- The function has done what it does, and this is what it gives back. -/
  | returned (c : Script.Call) (reply : Except Failure Reply)
  | leaving (c : Script.Call) (outcome : Outcome)
  /-- The dispatch ends early. -/
  | halting (h : Halt)

/-- What a dispatch asks of its surroundings. -/
inductive Question where
  | find (functions : Handle) (key : String)
  | change (functions : Handle) (c : Change Callback)
  | layer (base : Handle) (ds : List (Draft Callback))
  /-- An effect on the world, on behalf of a command where there is one. -/
  | effect (command : Option (Option String)) (q : Effect)
  | notify (listener : String) (diagnostic : SideEffect)
  /-- Tells an observer what happens, and how the dispatch stands at that moment. -/
  | observe (d : Dispatch) (a : Activity)

/-- The type of the answer to a question. -/
def Question.Answer : Question → Type
  | .find _ _ => Option (Descriptor Callback)
  | .change _ _ => List Notice × Option Failure
  | .layer _ _ => Except Failure Handle
  | .effect _ q => q.Answer
  | .notify _ _ => Unit
  | .observe .. => Unit

/-- The signature of the questions of dispatches. -/
def Questions : Signature := ⟨Question, Question.Answer⟩

/-- Asks a question. -/
def Question.ask (q : Question) : Program Questions q.Answer := Program.query (S := Questions) q

/-- What stays the same during a dispatch. -/
structure Scope where
  functions : Handle
  settings : Settings
  event : Value
  hasStore : Bool
  command : Option String
  /-- The command that log entries carry, if they carry one. -/
  logged : Option (Option String)

/-- Computations of a dispatch. -/
abbrev Evaluation := StateT Dispatch (Program Questions)

namespace Evaluation

/-- Asks a question. -/
def ask (q : Question) : Evaluation q.Answer := StateT.lift q.ask

/-- Tells an observer. -/
def observe (a : Activity) : Evaluation Unit := do ask (.observe (← get) a)

/-- Writes a note to the log. -/
def note (scope : Scope) (level : Log.Level) (source : Log.Source) (message : String) :
    Evaluation Unit :=
  ask (.effect scope.logged (.log ⟨level, source, message⟩))

/-- Ends the dispatch, unless it has ended; gives the end that counts. -/
def halt (scope : Scope) (h : Halt) : Evaluation Halt := do
  match (← get).halted with
  | some first => return first
  | none =>
    modify fun d => { d with halted := some h }
    observe (.halting h)
    note scope .debug .context
      ("dispatch " ++ Log.shownName scope.command ++ " halted: " ++ h.literal)
    return h

/-- Leaves a message for the host. -/
def emit (message : Value) (topics : List String) : Evaluation Unit :=
  modify fun d => { d with effects := d.effects ++ [⟨topics, message, none⟩] }

/-- Leaves a diagnostic apart from the output. -/
def report (scope : Scope) (function diagnostic : String) : Evaluation Unit := do
  note scope .warning .context diagnostic
  modify fun d =>
    { d with
      effects := d.effects ++
        [⟨[SideEffect.errorTopic], .text diagnostic, some (function, scope.command)⟩] }

end Evaluation

end CommandScript
