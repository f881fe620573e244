import CommandScript.Terminal.CommandLine
import CommandScript.World

/-!
# Terminals laid down in advance

A terminal whose lines and environment are laid down, and that records what is shown. Its files are
those of the world in which it is.

## Main definitions

- `CommandScript.Terminal.Recorded` — the state of a terminal
- `CommandScript.Terminal.Recorded.answer` — its answers
- `CommandScript.Terminal.Recorded.run` — running a program in it
-/

namespace CommandScript.Terminal

/-- The lines of a text, each with its end. -/
def linesOf : List Char → List (List Char)
  | [] => []
  | '\n' :: cs => ['\n'] :: linesOf cs
  | c :: cs =>
    match linesOf cs with
    | l :: ls => if c = '\n' then [c] :: l :: ls else (c :: l) :: ls
    | [] => [[c]]

/-- The state of a terminal. -/
structure Recorded where
  world : World
  /-- The lines to come. -/
  lines : List (List Char)
  /-- Whether the wait for the first line is interrupted. -/
  interrupts : Bool
  environment : List (String × String)
  output : String
  errors : String
  setups : List Log.Setup

namespace Recorded

/-- The answer to a question. -/
def answer (t : Recorded) : (q : Question) → q.Answer × Recorded
  | .readLine prompt =>
    if t.interrupts then (.interrupted, { t with interrupts := false })
    else
      let t := { t with output := t.output ++ prompt }
      match t.lines with
      | [] => (.ended, t)
      | l :: ls => (.line l, { t with lines := ls })
  | .print s => ((), { t with output := t.output ++ s })
  | .complain s => ((), { t with errors := t.errors ++ s })
  | .openFile path => (t.world.files.opened path, t)
  | .environment => (t.environment, t)
  | .setUpLog setup => ((), { t with setups := t.setups ++ [setup] })
  | .dispatch q =>
    let (r, world) := t.world.answer q
    (r, { t with world := world })

/-- Runs a program. -/
def run {α : Type} (t : Recorded) (p : Program Questions α) : α × Recorded :=
  Program.run (S := Questions) answer t p

end Recorded

end CommandScript.Terminal
