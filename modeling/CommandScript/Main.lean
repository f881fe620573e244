import CommandScript.Terminal.CommandLine
import CommandScript.Value.Attribute
import CommandScript.World
import CommandScript.Yaml.Reader

/-!
# The program

Runs the command line in the terminal from which it was started. No server can be reached.
-/

namespace CommandScript

/-- What a run keeps: the registries and the store, and how the log is set up. -/
structure Keep where
  world : IO.Ref World
  log : IO.Ref Log.Setup

namespace Keep

/-- Writes an entry of the log, if it is shown. -/
def write (k : Keep) (entry : Log.Entry) : IO Unit := do
  let setup ← k.log.get
  let note := entry.note
  if setup.shows note.source.name note.level then
    match Json.write .compact (.ofTable entry.fields) with
    | .ok cs =>
      IO.eprintln (if setup.json then String.ofList cs
        else "[" ++ note.level.word ++ "] " ++ note.message ++ " [" ++ note.source.name ++ "]")
    | .error _ => return ()

/-- A number between two bounds. -/
def draw (low high : Int) : IO Int := do
  return low + (← IO.rand 0 (high - low).toNat)

/-- The milliseconds of a wait. -/
def milliseconds (seconds : Binary64) : UInt32 :=
  match seconds.mul (Http.ratio 1000 1) with
  | .finite s r => UInt32.ofNat (Binary64.truncated s r).toNat
  | _ => 0

/-- The content of a file. -/
def openFile (path : String) : IO Opened := do
  match OpenError.ofPath? path with
  | some e => return .error e
  | none =>
    try
      return .ok (← IO.FS.readBinFile path).toList
    catch
      | .noFileOrDirectory .. => return .error .missing
      | .inappropriateType .. => return .error .directory
      | e => throw e

/-- Leaves a question to what is kept. -/
def ask (k : Keep) (q : Question) : IO q.Answer := do
  let (r, world) := (← k.world.get).answer q
  k.world.set world
  return r

/-- The answer to a question of a dispatch. -/
def answer (k : Keep) : (q : Question) → IO q.Answer
  | .effect _ (.draw low high) => draw low high
  | .effect _ (.sleep seconds) => IO.sleep (milliseconds seconds)
  | .effect _ (.openFile path) => openFile path
  | .effect command (.log note) => k.write ⟨note, command⟩
  | q => k.ask q

/-- The variables of the environment that matter. -/
def environment : IO (List (String × String)) := do
  let names := Terminal.CommandLine.settingsVariable :: Settings.fieldNames.map fun n =>
    Settings.environmentStart ++ String.ofList (Text.upper n.toList)
  names.filterMapM fun n => do return (← IO.getEnv n).map (n, ·)

/-- Waits for a line. -/
def readLine (prompt : String) : IO Terminal.LineAnswer := do
  IO.print prompt
  (← IO.getStdout).flush
  let line ← (← IO.getStdin).getLine
  return if line.isEmpty then .ended else .line line.toList

/-- The answer to a question of the command line. -/
def answerTerminal (k : Keep) : (q : Terminal.Question) → IO q.Answer
  | .readLine prompt => readLine prompt
  | .print s => IO.print s
  | .complain s => IO.eprint s
  | .openFile path => openFile path
  | .environment => environment
  | .setUpLog setup => k.log.set setup
  | .dispatch q => k.answer q

/-- Runs a program of the command line. -/
def perform {α : Type} (k : Keep) (p : Program Terminal.Questions α) : IO α :=
  Program.perform (S := Terminal.Questions) k.answerTerminal p

end Keep

/-- The status with which a run ends. -/
def exitStatus : Terminal.CommandLine.Ending → IO UInt32
  | .status n => return UInt32.ofNat n
  | .broken e => do
    IO.eprintln (e.kind ++ ": " ++ e.message)
    return 1

/-- Reads and evaluates lines to the end. -/
partial def converse (k : Keep) (i : Interpreter) : IO UInt32 := do
  match ← k.perform (Terminal.CommandLine.step i) with
  | some e => exitStatus e
  | none => converse k i

end CommandScript

open CommandScript in
/-- Runs the command line. -/
def main (args : List String) : IO UInt32 := do
  let k : Keep := ⟨← IO.mkRef (.empty runtimeVersion), ← IO.mkRef ⟨false, false⟩⟩
  match ← k.perform (Terminal.CommandLine.start args 0 []) with
  | .ended e => exitStatus e
  | .conversing i => converse k i
