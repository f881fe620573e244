import CommandScript.File
import CommandScript.Http.Basic
import CommandScript.Log
import CommandScript.Program
import CommandScript.Store

/-!
# Effects on the world

What functions may ask of the world around a dispatch: the store of variables, chance, servers,
time, files, the log, and the host that called.

## Main definitions

- `CommandScript.Effect` — a question to the world
- `CommandScript.Effect.Answer` — the type of its answer
- `CommandScript.Effects` — the signature of these questions
-/

namespace CommandScript

/-- A question to the world. -/
inductive Effect where
  /-- An operation on the store of variables. -/
  | store (q : Store.Query)
  /-- A number drawn between two bounds. -/
  | draw (low high : Int)
  /-- A request to a server. -/
  | send (r : Http.Request)
  /-- A wait, in seconds. -/
  | sleep (seconds : Binary64)
  /-- A file to be opened, by its path. -/
  | openFile (path : String)
  /-- A note for the log. -/
  | log (note : Log.Note)
  /-- A question to the host in terms of its own. -/
  | host (v : Value)
  /-- A moment for other dispatches. -/
  | pause

/-- The type of the answer to a question. -/
def Effect.Answer : Effect → Type
  | .store _ => Except UnfitKey Value
  | .draw _ _ => Int
  | .send _ => Http.Reply
  | .sleep _ => Unit
  | .openFile _ => Opened
  | .log _ => Unit
  | .host _ => Value
  | .pause => Unit

/-- The signature of the questions to the world. -/
def Effects : Signature := ⟨Effect, Effect.Answer⟩

end CommandScript
