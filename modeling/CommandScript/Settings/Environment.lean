import CommandScript.Text.Case
import CommandScript.Value.Table

/-!
# Settings in the environment

A setting is looked for under its name after a common beginning, without regard to letter case.
Options, which stand among the arguments that settings are asked for with, change how it is looked
for; all other options have no effect here.

## Main definitions

- `CommandScript.Settings.optionNames` — the names of all options
- `CommandScript.Settings.Search` — how settings are looked for
- `CommandScript.Settings.Search.ofArguments` — what the options among arguments say about that
- `CommandScript.Settings.Search.value?` — the value of a setting
- `CommandScript.Settings.OptionError` — why an option is refused

## Design notes

Which options there are, what they change and how names are spelled in the environment are rules of
what gathers the settings. They are assumed here, and so is that sources are asked name by name, in
the order in which `CommandScript.Settings.Source` lists them.
-/

namespace CommandScript.Settings

open Text

/-- What the names of settings begin with in the environment. -/
def environmentStart : String := "TGSCRIPT_"

/-- The names of options. They are no settings. -/
def optionNames : List String :=
  ["_case_sensitive", "_nested_model_default_partial_update", "_env_prefix", "_env_file",
    "_env_file_encoding", "_env_ignore_empty", "_env_nested_delimiter", "_env_nested_max_split",
    "_env_parse_none_str", "_env_parse_enums", "_cli_prog_name", "_cli_parse_args",
    "_cli_settings_source", "_cli_parse_none_str", "_cli_hide_none_type", "_cli_avoid_json",
    "_cli_enforce_required", "_cli_use_class_docs_for_groups", "_cli_exit_on_error",
    "_cli_prefix", "_cli_flag_prefix_char", "_cli_implicit_flags", "_cli_ignore_unknown_args",
    "_cli_kebab_case", "_cli_shortcuts", "_secrets_dir"]

/-- How settings are looked for in the environment. -/
structure Search where
  /-- What names begin with. -/
  start : String
  /-- Whether letter case counts. -/
  exactCase : Bool
  /-- Whether empty values count as none. -/
  skipsEmpty : Bool
  /-- The value that stands for null, if there is one. -/
  nullWord? : Option String
  /-- What separates the name of a collection from the name of a part of it. -/
  separator? : Option String

namespace Search

/-- The option of a name among arguments; null decides nothing. -/
def option? (arguments : List (String × Value)) (name : String) : Option Value :=
  match arguments.lookup name with
  | some .null => none
  | v => v

/-- Whether an option is given that counts as true. -/
def isOn (arguments : List (String × Value)) (name : String) : Bool :=
  (option? arguments name).any Value.isTruthy

/-- What the options among arguments say. -/
def ofArguments (arguments : List (String × Value)) : Search where
  start := ((option? arguments "_env_prefix").bind Value.text?).getD environmentStart
  exactCase := isOn arguments "_case_sensitive"
  skipsEmpty := isOn arguments "_env_ignore_empty"
  nullWord? := (option? arguments "_env_parse_none_str").bind Value.text?
  separator? :=
    ((option? arguments "_env_nested_delimiter").bind Value.text?).filter (· ≠ "")

/-- A name in the form in which names are compared. -/
def spelled (s : Search) (name : String) : String := if s.exactCase then name else lowered name

/-- The entries of an environment that count, the last of each name first. -/
def entries (s : Search) (environment : List (String × String)) : List (String × String) :=
  ((environment.filter fun e => !(s.skipsEmpty && e.2 == "")).map
    fun e => (s.spelled e.1, e.2)).reverse

/-- The value of a text in the environment. -/
def valueOf (s : Search) (text : String) : Value :=
  if s.nullWord? = some text then .null else .text text

/-- The value of a setting. -/
def value? (s : Search) (environment : List (String × String)) (field : String) : Option Value :=
  ((s.entries environment).lookup (s.spelled (s.start ++ field))).map s.valueOf

/-- Whether a part of a collection has an entry of its own. -/
def hasPart (s : Search) (environment : List (String × String)) (field : String) : Bool :=
  s.separator?.any fun separator =>
    (s.entries environment).any fun e =>
      (s.spelled (s.start ++ field) ++ separator).toList.isPrefixOf e.1.toList

/-- The value of a collection. Parts that have entries of their own make up a mapping; the names of
its keys do not matter, since no setting is a mapping. -/
def collection? (s : Search) (environment : List (String × String)) (field : String) :
    Option Value :=
  (s.value? environment field).or
    (if s.hasPart environment field then some (.map []) else none)

end Search

/-- Why an option is refused. -/
inductive OptionError where
  /-- The name of a type whose values have no length. -/
  | noLength (typeName : String)
  /-- A setting of which the name cannot be formed. -/
  | noName (field : String)
  /-- The name of a type whose values have no items. -/
  | noItems (typeName : String)
  deriving DecidableEq, Repr

namespace OptionError

/-- The word for the kind of an error. -/
def kind : OptionError → String
  | .noLength _ => "TypeError"
  | .noName _ => "SettingsError"
  | .noItems _ => "TypeError"

/-- The wording of an error. -/
def message : OptionError → String
  | .noLength t => "object of type '" ++ t ++ "' has no len()"
  | .noName f => "error getting value for field \"" ++ f ++ "\" from source \"EnvSettingsSource\""
  | .noItems t => "'" ++ t ++ "' object is not iterable"

end OptionError

/-- Whether a value has items. -/
def hasItems (v : Value) : Bool :=
  match v with
  | .bytes _ => true
  | .buffer _ => true
  | .set _ => true
  | .frozenSet _ => true
  | v => v.text?.isSome || v.entries?.isSome || v.sequence?.isSome

/-- Checks that options which have to have items have them. -/
def checkOptions (arguments : List (String × Value)) : Except OptionError Unit :=
  let without (name : String) := (Search.option? arguments name).filter fun v => !hasItems v
  match without "_env_prefix", without "_env_file" with
  | some v, _ => .error (.noLength v.fullTypeName)
  | none, some v => .error (.noItems v.fullTypeName)
  | none, none => .ok ()

/-- Checks that the name of a setting in the environment can be formed. -/
def checkStart (arguments : List (String × Value)) (field : String) : Except OptionError Unit :=
  match Search.option? arguments "_env_prefix" with
  | none => .ok ()
  | some v => if v.text?.isSome then .ok () else .error (.noName field)

end CommandScript.Settings
