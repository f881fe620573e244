import CommandScript.Dispatch.Basic
import CommandScript.Script.Argument

/-!
# Running routines

A routine runs for one call of a dispatch. An argument is evaluated when it is read for the first
time, and its text is kept for later reads of the same call.

## Main definitions

- `CommandScript.Memo` — the texts of the arguments read so far
- `CommandScript.Evaluation.argument` — reading an argument
- `CommandScript.Evaluation.routine` — running a routine

## Design notes

How a source is evaluated is a parameter here, because it is what calls routines in turn.
-/

namespace CommandScript

/-- The texts of the arguments that a call has read so far, by position. -/
abbrev Memo := List (Nat × String)

/-- An argument of a call as written, with the line on which it starts. -/
def Script.Call.argumentAt? (c : Script.Call) (index : Int) : Option (List Char × Int) :=
  if index < 0 then none
  else (c.arguments.zip (Script.argumentLines c.raw c.line))[index.toNat]?

namespace Evaluation

/-- What a routine sees of its call. -/
def view (scope : Scope) (c : Script.Call) : Evaluation View := do
  return { name := c.shownName
           line := c.line
           raw := c.raw
           arguments := c.arguments
           event := scope.event
           hasStore := scope.hasStore
           command := scope.command
           isAborted := (← get).isHalted }

/-- Reads an argument: its text where it can be had, and what is read afterwards. -/
def argument (render : List Char → Int → Evaluation Outcome) (scope : Scope) (c : Script.Call)
    (memo : Memo) (index : Int) : Evaluation (Option String × Memo) := do
  -- What has been read stays readable after the dispatch has ended.
  match c.argumentAt? index, memo.lookup index.toNat with
  | none, _ => return (none, memo)
  | some _, some s => return (some s, memo)
  | some (source, line), none =>
    if (← get).isHalted then return (none, memo)
    else
      match ← render source line with
      | .ok s => return (some s, (index.toNat, s) :: memo)
      | .error h =>
        let _ ← halt scope h
        return (none, memo)

/-- Ends the dispatch on behalf of a call, with a diagnostic where details are given. The end that
is given back is the one asked for, even if another one counts. -/
def abort (scope : Scope) (c : Script.Call) (reason : String) (details : Option String) :
    Evaluation Halt := do
  let diagnostic := details.map fun d => Diagnostic.text c.shownName d (some c.line)
  let h := Halt.aborted reason diagnostic (some c.shownName)
  let _ ← halt scope h
  return h

/-- Writes what a registry tells to the log. -/
def noteAll (scope : Scope) : List Notice → Evaluation Unit
  | [] => return ()
  | n :: ns => do
    note scope .debug .registry n.message
    noteAll scope ns

/-- Changes the functions of the dispatch. -/
def change (scope : Scope) (c : Change Callback) : Evaluation (Option Failure) := do
  let (notices, failure) ← ask (.change scope.functions c)
  noteAll scope notices
  return failure

/-- Runs a routine for a call that has read some arguments. -/
def routine {α : Type} (render : List Char → Int → Evaluation Outcome) (scope : Scope)
    (c : Script.Call) (memo : Memo) : Routine Callback α → Evaluation (Except Failure α × Memo)
  | .done a => return (.ok a, memo)
  | .raise e => return (.error e, memo)
  | .argument i next => do
    let (s, memo) ← argument render scope c memo i
    routine render scope c memo (next s)
  | .look next => do
    let v ← view scope c
    routine render scope c memo (next v)
  | .abort reason details next => do
    let h ← abort scope c reason details
    routine render scope c memo (next h)
  | .emit message topics next => do
    emit message topics
    routine render scope c memo next
  | .recall key next => do
    let d ← get
    routine render scope c memo (next (d.cache.get? key))
  | .remember key v next => do
    modify fun d => { d with cache := d.cache.insert key v }
    routine render scope c memo next
  | .change ch next => do
    let failure ← change scope ch
    routine render scope c memo (next failure)
  | .effect q next => do
    let r ← ask (.effect scope.logged q)
    routine render scope c memo (next r)

end Evaluation

end CommandScript
