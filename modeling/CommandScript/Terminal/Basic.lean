import CommandScript.Interpreter
import CommandScript.Log.Setup
import CommandScript.Settings.Source

/-!
# Terminals

What the command line asks of the terminal that it runs in: lines that are typed, texts to be shown,
files, the environment, and whatever dispatches ask.

## Main definitions

- `CommandScript.Terminal.Question`, `CommandScript.Terminal.Questions` — what is asked
- `CommandScript.Terminal.LineAnswer` — what comes of waiting for a line
-/

namespace CommandScript.Terminal

/-- What comes of waiting for a line. A line has its end with it, except perhaps the last. -/
inductive LineAnswer where
  | line (cs : List Char)
  | ended
  | interrupted

/-- What the command line asks. -/
inductive Question where
  | readLine (prompt : String)
  /-- A text for the output. -/
  | print (s : String)
  /-- A text for the output of errors. -/
  | complain (s : String)
  | openFile (path : String)
  | environment
  | setUpLog (setup : Log.Setup)
  | dispatch (q : CommandScript.Question)

/-- The type of the answer to a question. -/
def Question.Answer : Question → Type
  | .readLine _ => LineAnswer
  | .print _ => Unit
  | .complain _ => Unit
  | .openFile _ => Opened
  | .environment => List (String × String)
  | .setUpLog _ => Unit
  | .dispatch q => q.Answer

/-- The signature of the questions of the command line. -/
def Questions : Signature := ⟨Question, Question.Answer⟩

/-- Asks a question. -/
def Question.ask (q : Question) : Program Questions q.Answer := Program.query (S := Questions) q

/-- Runs a program that asks what dispatches ask. -/
def dispatching {α : Type} (p : Program CommandScript.Questions α) : Program Questions α :=
  p.relay fun q => (Question.dispatch q).ask

end CommandScript.Terminal
