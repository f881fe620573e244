import CommandScript.File
import CommandScript.Terminal.Basic

/-!
# The command line

With the name of a file, the file is evaluated as one command string; otherwise lines are read and
evaluated one by one. Messages come first, then diagnostics that were kept apart, then the output. A
message or diagnostic without a text breaks off the run.

## Main definitions

- `CommandScript.Terminal.CommandLine.shown` — what is shown of a result
- `CommandScript.Terminal.CommandLine.start` — the beginning of a run, up to the first typed line
- `CommandScript.Terminal.CommandLine.step` — reading and evaluating a line
- `CommandScript.Terminal.CommandLine.converse` — reading and evaluating lines
-/

namespace CommandScript.Terminal.CommandLine

/-- Why a run breaks off. -/
inductive Error where
  | settings (e : Settings.LoadError)
  | functions (e : Failure)
  | undecodable (e : Text.Utf8.DecodeError)
  | unopened (path : String) (e : OpenError)
  /-- A line that has no text. -/
  | unprintable (e : ConversionError)

namespace Error

/-- The word for the kind of an error. -/
def kind : Error → String
  | .settings e => e.kind
  | .functions e => e.kind
  | .undecodable _ => "UnicodeDecodeError"
  | .unopened _ e => e.kind
  | .unprintable e => e.kind

/-- The wording of an error. -/
def message : Error → String
  | .settings e => e.message
  | .functions e => e.shownMessage
  | .undecodable e => e.message
  | .unopened p e => e.message p
  | .unprintable e => e.message

end Error

/-- How a run ends: with a status, or by breaking off. -/
inductive Ending where
  | status (n : Nat)
  | broken (e : Error)

/-- A line that is shown: in the output, or in the output of errors. -/
inductive Shown where
  | out (v : Value)
  | err (v : Value)

namespace Shown

/-- What stands in a line. -/
def value : Shown → Value
  | .out v => v
  | .err v => v

/-- What is asked of the terminal for a line with the given text. -/
def question (s : String) : Shown → Question
  | .out _ => .print (s ++ "\n")
  | .err _ => .complain (s ++ "\n")

end Shown

/-- Messages that are to be sent and nothing else. -/
def isSent (s : SideEffect) : Bool := s.topics = [BuiltIn.sendTopic]

/-- What is shown of a result. -/
def shown (r : Result) : List Shown :=
  (r.sideEffects.filter isSent).map (fun s => .out s.message) ++
    r.errors.map (fun s => .err s.message) ++
    (if r.status = .error ∧ r.output = none then [.err (.text r.errorText)] else []) ++
    ((r.output.filter (· ≠ "")).map fun s => Shown.out (.text s)).toList

/-- Shows lines, up to the first that has no text. -/
def showAll : List Shown → Program Questions (Except ConversionError Unit)
  | [] => return .ok ()
  | l :: rest =>
    match l.value.plainText with
    | .error e => return .error e
    | .ok s => do
      let _ ← (l.question s).ask
      showAll rest

/-- The name of the variable that gives the path of the settings. -/
def settingsVariable : String := "TGSCRIPT_CONFIG"

section Starting

variable [Yaml.Loader]

/-- The settings of a run. -/
def settings : Program Questions (Except Error Settings) := do
  let environment ← Question.environment.ask
  match (environment.lookup settingsVariable).filter (· ≠ "") with
  | none => return (Settings.gather [] environment).mapError .settings
  | some path => do
    let plain := Text.FileName.plain path
    let file ← (Question.openFile plain).ask
    return (Settings.load plain file [] environment).mapError .settings

/-- The interpreter of a run, whose functions are kept in a registry. -/
def interpreter [Value.Attributes] (functions : Handle) (native : List (Draft Callback)) :
    Program Questions (Except Error Interpreter) := do
  match ← settings with
  | .error e => return .error e
  | .ok s => do
    (Question.setUpLog ⟨s.debug, s.logJson⟩).ask
    return (← dispatching (Interpreter.create s functions true native [])).mapError .functions

end Starting

/-- Evaluates a command string and shows what comes of it; gives how it went. -/
def evaluate (i : Interpreter) (source : List Char) (command : String) :
    Program Questions (Except Error Status) := do
  match ← dispatching (i.handle ⟨source, .null, some command, []⟩) with
  | .error e => return .error (.functions e)
  | .ok r =>
    match ← showAll (shown r) with
    | .error e => return .error (.unprintable e)
    | .ok () => return .ok r.status

/-- Evaluates a file. -/
def runFile (i : Interpreter) (path : String) : Program Questions Ending := do
  let plain := Text.FileName.plain path
  match ← (Question.openFile plain).ask with
  | .error .missing => do
    (Question.complain ("Error: file not found: " ++ path ++ "\n")).ask
    return .status 1
  | .error e => return .broken (.unopened plain e)
  | .ok bytes =>
    match Settings.fileText bytes with
    | .error e => return .broken (.undecodable e)
    | .ok source =>
      match ← evaluate i source (Text.FileName.stem path) with
      | .error e => return .broken e
      | .ok .success => return .status 0
      | .ok _ => return .status 1

/-- What is shown before the first line. -/
def banner : String := "tgscript REPL\nType 'exit' or press Ctrl+D to quit.\n"

/-- What is shown at the end. -/
def farewell : String := "\nExiting.\n"

/-- What comes of the beginning of a run. -/
inductive Start where
  | ended (e : Ending)
  | conversing (i : Interpreter)

/-- The file that the first argument names; an argument that begins with a dash names none. -/
def file? (args : List String) : Option String :=
  args.head?.filter fun a => a.toList.head? ≠ some '-'

/-- The beginning of a run, up to the first line that is typed. -/
def start [Yaml.Loader] [Value.Attributes] (args : List String) (functions : Handle)
    (native : List (Draft Callback)) : Program Questions Start := do
  match file? args with
  | some path =>
    match ← interpreter functions native with
    | .error e => return .ended (.broken e)
    | .ok i => return .ended (← runFile i path)
  | none => do
    (Question.print banner).ask
    match ← interpreter functions native with
    | .error e => return .ended (.broken e)
    | .ok i => return .conversing i

/-- A line without its end. -/
def withoutEnd (cs : List Char) : List Char := Text.dropEndWhile (· = '\n') cs

/-- The name under which lines are evaluated. -/
def lineCommand : String := "repl"

/-- The word that ends a run. -/
def exitWord : List Char := ['e', 'x', 'i', 't']

/-- Reads and evaluates a line; gives the ending of the run if it ends with that. -/
def step (i : Interpreter) : Program Questions (Option Ending) := do
  match ← (Question.readLine ">> ").ask with
  | .ended => do
    (Question.print farewell).ask
    return some (.status 0)
  | .interrupted => do
    (Question.print farewell).ask
    return some (.status 0)
  | .line raw =>
    let line := withoutEnd raw
    -- Blanks count in a line that is evaluated, but not in the word that ends the run.
    let word := Text.trim line
    if word.isEmpty then return none
    else if word = exitWord then return some (.status 0)
    else
      match ← evaluate i line lineCommand with
      | .error e => return some (.broken e)
      | .ok _ => return none

/-- Reads and evaluates a number of lines at most; gives the ending of the run if it ends before. -/
def converse (i : Interpreter) : (lines : Nat) → Program Questions (Option Ending)
  | 0 => return none
  | n + 1 => do
    match ← step i with
    | some e => return some e
    | none => converse i n

/-- A run in which a number of lines are typed at most. -/
def run [Yaml.Loader] [Value.Attributes] (args : List String) (functions : Handle)
    (native : List (Draft Callback)) (lines : Nat) : Program Questions (Option Ending) := do
  match ← start args functions native with
  | .ended e => return some e
  | .conversing i => converse i lines

end CommandScript.Terminal.CommandLine
