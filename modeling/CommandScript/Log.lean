import CommandScript.Text.Quoted

/-!
# Log entries

What is noted about a run for the one who operates it.

## Main definitions

- `CommandScript.Log.Level` — how grave an entry is
- `CommandScript.Log.Source` — which part of the program an entry is from
- `CommandScript.Log.Note` — an entry as the part that writes it knows it
- `CommandScript.Log.Entry` — an entry with the command during which it was written
-/

namespace CommandScript.Log

/-- How grave an entry is. -/
inductive Level where
  | debug
  | info
  | warning
  | error
  | critical
  deriving DecidableEq, Repr

namespace Level

/-- The rank of a level. -/
def rank : Level → Nat
  | .debug => 10
  | .info => 20
  | .warning => 30
  | .error => 40
  | .critical => 50

/-- The word for a level. -/
def word : Level → String
  | .debug => "debug"
  | .info => "info"
  | .warning => "warning"
  | .error => "error"
  | .critical => "critical"

/-- The level with a given word; some have more than one. -/
def named? (word : String) : Option Level :=
  match word with
  | "exception" => some .error
  | "warn" => some .warning
  | "fatal" => some .critical
  | w => [Level.debug, .info, .warning, .error, .critical].find? (·.word == w)

end Level

/-- The part of the program that writes an entry. -/
inductive Source where
  | registry
  | context
  | evaluator
  | runtime
  | http
  deriving DecidableEq, Repr

/-- The name under which a part writes. -/
def Source.name : Source → String
  | .registry => "tgscript.tgscript_registry"
  | .context => "tgscript.tgscript_context"
  | .evaluator => "tgscript.tgscript_interpreter"
  | .runtime => "tgscript.tgscript_runtime"
  | .http => "tgscript.tgscript_http"

/-- An entry as the part that writes it knows it. -/
structure Note where
  level : Level
  source : Source
  message : String
  deriving DecidableEq, Repr

/-- An entry, with the name of the command during which it was written: outside of every command
there is none, and inside one the name may be unknown. -/
structure Entry where
  note : Note
  command : Option (Option String)
  deriving DecidableEq, Repr

/-- The literal of a name that may be unknown. -/
def shownName (name : Option String) : String := (name.map Text.quoted).getD "None"

end CommandScript.Log
