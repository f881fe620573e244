import CommandScript.Settings.Source

/-!
# Building settings

While settings are built for a YAML file, the path of the file is pending: whatever builds settings
takes the file that is pending as a source. The path is taken back when the settings are there, and
also when they are not.

## Main definitions

- `CommandScript.Settings.Building` — what builds something beside a pending path
- `CommandScript.Settings.construct` — settings with the file that is pending
- `CommandScript.Settings.loadFile` — settings with a given file
- `CommandScript.Settings.Request` — what settings are asked for with
- `CommandScript.Settings.Request.session` — one request after another
-/

namespace CommandScript.Settings

/-- The path of the YAML file for which settings are being built, where there is one. -/
abbrev Pending := Option String

/-- What builds something, or fails, beside a pending path. -/
abbrev Building := ExceptT LoadError (StateM Pending)

section Construction

variable [Yaml.Loader]

/-- What the file gives that is pending. -/
def pendingData (files : Files) (pending : Pending) : Except LoadError (List (String × Value)) :=
  match pending with
  | none => .ok []
  | some path => openedData path (files.opened path)

/-- The settings with the file that is pending as a source. -/
def settingsFor (files : Files) (pending : Pending) (arguments : List (String × Value))
    (environment : List (String × String)) : Except LoadError Settings := do
  (checkOptions arguments).mapError .option
  ofSources ⟨arguments, environment, ← pendingData files pending⟩

/-- Builds settings from the sources there are at that time. -/
def construct (files : Files) (arguments : List (String × Value))
    (environment : List (String × String)) : Building Settings := do
  liftExcept (settingsFor files (← get) arguments environment)

/-- Builds settings with a given file as a source. Its path is pending meanwhile. -/
def loadFile (files : Files) (path : String) (arguments : List (String × Value))
    (environment : List (String × String)) : Building Settings :=
  if (arguments.lookup "path").isSome then throw .pathTwice
  else
    match files.opened path with
    | .error .tooLong => throw (.unopened path .tooLong)
    | .error _ => throw (.noFile path)
    | .ok _ => do
      set (some path)
      try construct files arguments environment
      finally set (none : Pending)

end Construction

/-- What settings are asked for with: the path of a YAML file, if there is one to be read, and
arguments, where there are these files and this environment. -/
structure Request where
  path? : Option String
  arguments : List (String × Value)
  environment : List (String × String)
  files : Files

namespace Request

variable [Yaml.Loader]

/-- Builds the settings of a request. -/
def build (r : Request) : Building Settings :=
  match r.path? with
  | none => construct r.files r.arguments r.environment
  | some path => loadFile r.files path r.arguments r.environment

/-- Builds the settings of one request after another. A failure ends only its own request. -/
def session (requests : List Request) : StateM Pending (List (Except LoadError Settings)) :=
  requests.mapM fun r => r.build.run

end Request

end CommandScript.Settings
