import CommandScript.File
import CommandScript.Payload
import CommandScript.Settings.Basic
import CommandScript.Settings.Environment

/-!
# Where settings come from

A setting is taken from the first of these sources that has it: the arguments with which the
settings are asked for, the environment, a YAML document, and what is usual. A value that is
overridden is never looked at. Names that mean nothing are faults, except in the environment, and so
are options in a document.

## Main definitions

- `CommandScript.Settings.Sources` — the sources of settings
- `CommandScript.Settings.documentData` — what a YAML document says
- `CommandScript.Settings.read` — the settings that the sources give, or all their faults
- `CommandScript.Settings.gather` — the settings without a document
- `CommandScript.Settings.load` — the settings for a YAML file
-/

namespace CommandScript.Settings

open Text

/-- The names of all settings, in order. -/
def fieldNames : List String :=
  ["text_errors", "max_depth", "disabled_functions", "debug", "log_json"]

/-- The sources of settings, each with the values that it gives. -/
structure Sources where
  arguments : List (String × Value)
  environment : List (String × String)
  document : List (String × Value)

/-- The value of a setting among arguments, whose names may be written in any letter case. -/
def argument? (arguments : List (String × Value)) (field : String) : Option Value :=
  (arguments.find? fun a => lowered a.1 == field).map (·.2)

/-- The value of a setting in the environment. Only names may be given part by part. -/
def Sources.fromEnvironment? (s : Sources) (field : String) : Option Value :=
  let search := Search.ofArguments s.arguments
  if field = "disabled_functions" then search.collection? s.environment field
  else search.value? s.environment field

/-- The value that the first source gives which has one. -/
def Sources.value? (s : Sources) (field : String) : Option Value :=
  (argument? s.arguments field).or ((s.fromEnvironment? field).or (s.document.lookup field))

/-- The names that mean nothing, those of the document first. -/
def Sources.unknownNames (s : Sources) : List String :=
  let fromDocument := (s.document.map (·.1)).filter fun n => !fieldNames.contains n
  let fromArguments := (s.arguments.map (·.1)).filter fun n =>
    !(fieldNames.contains (lowered n) || optionNames.contains n)
  (fromDocument ++ fromArguments).eraseDups

/-- Faults in place of nothing. -/
def faultsOf {α : Type} : Except (List Fault) α → List Fault
  | .ok _ => []
  | .error faults => faults

/-- Reads a setting, or takes what is usual. -/
def field {α : Type} (s : Sources) (name : String) (usual : α)
    (reader : Value → Except FaultKind α) : Except (List Fault) α :=
  match s.value? name with
  | none => .ok usual
  | some v => (reader v).mapError fun k => [⟨[name], k⟩]

/-- The settings that sources give; all faults are reported. -/
def read (s : Sources) : Except (List Fault) Settings :=
  let textErrors := field s "text_errors" usual.textErrors readTruth
  let depth := field s "max_depth" ⟨usual.maxDepth, usual.one_le_maxDepth⟩ readDepth
  let disabled : Except (List Fault) (List String) := match s.value? "disabled_functions" with
    | none => .ok usual.disabledFunctions
    | some v => readNames "disabled_functions" v
  let debug := field s "debug" usual.debug readTruth
  let logJson := field s "log_json" usual.logJson readTruth
  let unknown := s.unknownNames.map fun n => (⟨[n], .unknownField⟩ : Fault)
  -- Faults come in the order of the fields, and unknown names after all of them.
  match textErrors, depth, disabled, debug, logJson, unknown with
  | .ok t, .ok d, .ok f, .ok b, .ok j, [] => .ok ⟨t, d.1, d.2, f, b, j⟩
  | t, d, f, b, j, unknown =>
    .error (faultsOf t ++ faultsOf d ++ faultsOf f ++ faultsOf b ++ faultsOf j ++ unknown)

/-- Settings do not change: assigning to a name is a fault, unless the name is private. -/
def assignFault? (name : String) : Option Fault :=
  if name.toList.head? = some '_' then none else some ⟨[name], .frozen⟩

/-- Why settings are not loaded. -/
inductive LoadError where
  /-- An argument of a name that the path of the file has. -/
  | pathTwice
  | noFile (path : String)
  | unopened (path : String) (e : OpenError)
  | undecodable (e : Utf8.DecodeError)
  /-- A document that is no YAML. -/
  | malformed (path : String)
  /-- A document with a value that cannot be formed. -/
  | value (e : Yaml.ReadError)
  | noMapping (path : String)
  /-- The part for these settings is of a type without entries. -/
  | noEntries (typeName : String)
  | option (e : OptionError)
  | invalid (faults : List Fault)

namespace LoadError

/-- The word for the kind of an error. -/
def kind : LoadError → String
  | .pathTwice => "TypeError"
  | .noFile _ => "FileNotFoundError"
  | .unopened _ e => e.kind
  | .undecodable _ => "UnicodeDecodeError"
  | .malformed _ => "ValueError"
  | .value e => e.kind
  | .noMapping _ => "ValueError"
  | .noEntries _ => "AttributeError"
  | .option e => e.kind
  | .invalid _ => "ValidationError"

/-- The wording of an error. -/
def message : LoadError → String
  | .pathTwice => "load_config() got multiple values for argument 'path'"
  | .noFile p => "config file not found: " ++ p
  | .unopened p e => e.message p
  | .undecodable e => e.message
  | .malformed p => "Invalid YAML in " ++ p
  | .value e => e.message
  | .noMapping p => p ++ ": expected a mapping at the top level"
  | .noEntries t => "'" ++ t ++ "' object has no attribute 'items'"
  | .option e => e.message
  | .invalid _ => ""

end LoadError

/-- The part of a document for these settings: what stands under the name of the program, or else
the whole document. -/
def documentPart (path : String) (document : Value) : Except LoadError Value :=
  if !document.isTruthy then .ok (.map [])
  else
    match document with
    | .map es => .ok ((Value.lookupText? es "tgscript").getD document)
    | _ => .error (.noMapping path)

/-- The name of a setting in a document, where dashes may stand for underscores. -/
def documentName (key : Value) : Except LoadError String := do
  let s ← key.plainText.mapError fun e => .value (.conversion e)
  return String.ofList (s.toList.map fun c => if c = '-' then '_' else c)

/-- The settings that a document gives. Of two spellings of one name the later value counts. -/
def documentData (path : String) (document : Value) : Except LoadError (List (String × Value)) := do
  let part ← documentPart path document
  if !part.isTruthy then return []
  else
    match part.entries? with
    | none => throw (.noEntries part.fullTypeName)
    | some es =>
      return Table.ofList (← es.mapM fun e => do return (← documentName e.1, e.2))

/-- A text whose line ends are all written in one way. -/
def withPlainLineEnds : List Char → List Char
  | '\r' :: '\n' :: cs => '\n' :: withPlainLineEnds cs
  | c :: cs => (if c = '\r' then '\n' else c) :: withPlainLineEnds cs
  | [] => []

/-- The text of a file. -/
def fileText (content : List UInt8) : Except Utf8.DecodeError (List Char) :=
  (Utf8.decode content).map withPlainLineEnds

section Loading

variable [Yaml.Loader]

/-- The settings that a file gives. -/
def fileData (path : String) (content : List UInt8) : Except LoadError (List (String × Value)) := do
  let cs ← (fileText content).mapError .undecodable
  match Yaml.Loader.load cs with
  | .ok v => documentData path v
  | .error .malformed => throw (.malformed path)
  | .error e => throw (.value e)

/-- What a file gives that is opened at once. -/
def openedData (path : String) (file : Opened) : Except LoadError (List (String × Value)) := do
  fileData path (← file.mapError (.unopened path))

/-- The settings that sources give, or why there are none. -/
def ofSources (s : Sources) : Except LoadError Settings := do
  (checkStart s.arguments "text_errors").mapError .option
  (read s).mapError .invalid

/-- The settings without a document. -/
def gather (arguments : List (String × Value)) (environment : List (String × String)) :
    Except LoadError Settings := do
  (checkOptions arguments).mapError .option
  ofSources ⟨arguments, environment, []⟩

/-- The settings for a YAML file. Whether there is one is looked up before, which only a path that
is too long prevents. -/
def load (path : String) (file : Opened) (arguments : List (String × Value))
    (environment : List (String × String)) : Except LoadError Settings :=
  if (arguments.lookup "path").isSome then .error .pathTwice
  else
    match file with
    | .error .tooLong => .error (.unopened path .tooLong)
    | .error _ => .error (.noFile path)
    | .ok bytes => do
      (checkOptions arguments).mapError .option
      ofSources ⟨arguments, environment, ← fileData path bytes⟩

end Loading

end CommandScript.Settings
