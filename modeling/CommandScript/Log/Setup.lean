import CommandScript.Log
import CommandScript.Value.Basic

/-!
# What the log shows

Which entries are shown depends on the logger that writes them: the program's own loggers show
everything when the log is verbose, and all others only what is at least a warning.

## Main definitions

- `CommandScript.Log.Setup` — how the log is set up
- `CommandScript.Log.Setup.threshold` — the least level that a logger shows
- `CommandScript.Log.Setup.shows` — whether an entry is shown
- `CommandScript.Log.fields` — an entry as a mapping
-/

namespace CommandScript.Log

/-- The word for a level in capital letters. -/
def Level.capitals : Level → String
  | .debug => "DEBUG"
  | .info => "INFO"
  | .warning => "WARNING"
  | .error => "ERROR"
  | .critical => "CRITICAL"

/-- How the log is set up: whether everything is shown, and whether as JSON. -/
structure Setup where
  verbose : Bool
  json : Bool
  deriving DecidableEq, Repr

namespace Setup

/-- The name of the program's own loggers, and of what stands under it. -/
def ownName : String := "tgscript"

/-- Whether a logger is one of the program's own. -/
def isOwn (logger : String) : Bool :=
  logger == ownName || (ownName ++ ".").toList.isPrefixOf logger.toList

/-- The least level that a logger shows. -/
def threshold (s : Setup) (logger : String) : Level :=
  if isOwn logger && s.verbose then .debug else .warning

/-- Whether an entry of a level is shown. -/
def shows (s : Setup) (logger : String) (level : Level) : Bool :=
  (s.threshold logger).rank ≤ level.rank

/-- The entries that are shown. -/
def shown (s : Setup) (entries : List Entry) : List Entry :=
  entries.filter fun e => s.shows e.note.source.name e.note.level

end Setup

/-- The fields of an entry: its text, its level, the name of its logger, and the command during
which it was written, if it was written during one. -/
def fields (event : String) (level : Level) (logger : String) (command : Option (Option String)) :
    List (String × Value) :=
  let shown := fun (c : Option String) => ("command", (c.map Value.text).getD Value.null)
  [("event", Value.text event), ("level", .text level.word), ("logger", .text logger)] ++
    (command.map shown).toList

/-- The fields of an entry. -/
def Entry.fields (e : Entry) : List (String × Value) :=
  Log.fields e.note.message e.note.level e.note.source.name e.command

/-- The name under which a logger writes: the one without a name is the root of all. -/
def loggerName (logger : String) : String := if logger = "" then "root" else logger

end CommandScript.Log
