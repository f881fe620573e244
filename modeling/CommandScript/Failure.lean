import CommandScript.Http.Client
import CommandScript.Script.Segment
import CommandScript.Template
import CommandScript.Value.Order

/-!
# Failures

What may go wrong while functions are registered and called. A failure that no one expected ends a
dispatch; its kind and wording are shown to the one who operates it. Failures of the host need not
have a wording: to word them may fail.

## Main definitions

- `CommandScript.RegistryError` — why a registry refuses a change or a question
- `CommandScript.DefinitionError` — why something defines no function
- `CommandScript.Failure` — why a call fails
-/

namespace CommandScript

/-- Why a registry refuses a change or a question. Functions are given by their keys. -/
inductive RegistryError where
  | nothingNamed
  | noName
  /-- The name of a type whose values are no names. -/
  | noNameType (typeName : String)
  | duplicate (key : String)
  | editUnknown (key : String)
  | removeUnknown (key : String)
  | versionMismatch (key : String) (required running : Value)

namespace RegistryError

/-- The word for the kind of an error. -/
def kind : RegistryError → String
  | .duplicate _ => "DuplicateFunction"
  | .editUnknown _ => "UnknownFunction"
  | .removeUnknown _ => "UnknownFunction"
  | .versionMismatch .. => "VersionMismatch"
  | _ => "RegistryError"

/-- The key of the function that an error is about. -/
def key? : RegistryError → Option String
  | .duplicate k => some k
  | .editUnknown k => some k
  | .removeUnknown k => some k
  | .versionMismatch k _ _ => some k
  | _ => none

/-- The wording of an error. -/
def message : RegistryError → String
  | .nothingNamed => "no function name given"
  | .noName => "you did not specify the 'name' parameter"
  | .noNameType t => "function name must be str or list of str, not " ++ t
  | .duplicate k => "the function $" ++ k ++ " already exists; to overwrite it, use edit()"
  | .editUnknown k =>
    "the function $" ++ k ++ " does not exist; only registered functions can be edited"
  | .removeUnknown k => "the function $" ++ k ++ " does not exist or has already been deleted"
  | .versionMismatch k required _ =>
    "to load the function $" ++ k ++
      ", the library version must be equal to or greater than " ++ required.plain

end RegistryError

/-- Why something defines no function. Types are given by their names. -/
inductive DefinitionError where
  /-- The literal of the name of a definition with neither body nor callback. -/
  | noBody (nameLiteral : String)
  | anonymous
  | noDefinition (typeName : String)
  | noParameters (typeName : String)
  | noNameText (typeName : String)
  | noNameBytes
  | noVersion (e : Value.OrderError)
  | unwritable (e : ConversionError)
  deriving DecidableEq, Repr

namespace DefinitionError

/-- The word for the kind of an error. -/
def kind : DefinitionError → String
  | .noNameText _ => "AttributeError"
  | .unwritable e => e.kind
  | _ => "TypeError"

/-- The wording of an error. -/
def message : DefinitionError → String
  | .noBody l => "function " ++ l ++ " needs a callable 'callback' or a 'code' body"
  | .anonymous => "native functions must be named; wrap lambdas in a NativeFunction"
  | .noDefinition t => "Cannot build a function descriptor from " ++ t
  | .noParameters t => "'" ++ t ++ "' object is not iterable"
  | .noNameText t => "'" ++ t ++ "' object has no attribute 'lstrip'"
  | .noNameBytes => "a bytes-like object is required, not 'str'"
  | .noVersion e => e.message
  | .unwritable e => e.message

end DefinitionError

/-- Why a call fails. -/
inductive Failure where
  | parse (e : Script.ParseError)
  | depth (limit : Int)
  | conversion (e : ConversionError)
  | printing (e : Payload.WriteError)
  | template (e : Template.Error)
  | registry (e : RegistryError)
  | definition (e : DefinitionError)
  | unfitKey (e : UnfitKey)
  | http (e : Http.Error)
  | payload (e : Yaml.ReadError)
  | unknownKinds (names : List String) (function : String)
  | noFunction (shown : String)
  /-- A failure that a function of the host reports by itself. -/
  | reported (kind message : String)
  /-- A failure of the host that cannot be put into words: the attempt fails in turn. -/
  | wordless (kind : String) (cause : Failure)

namespace Failure

/-- The word for the kind of a failure. -/
def kind : Failure → String
  | .parse _ => "DslParseError"
  | .depth _ => "RecursionError"
  | .conversion e => e.kind
  | .printing e => e.kind
  | .template e => e.kind
  | .registry e => e.kind
  | .definition e => e.kind
  | .unfitKey _ => "TypeError"
  | .http e => e.kind
  | .payload e => e.kind
  | .unknownKinds .. => "ValueError"
  | .noFunction _ => "TypeError"
  | .reported k _ => k
  | .wordless k _ => k

/-- The wording of the failure of a call inside too many others. -/
def tooDeep (limit : Int) : String :=
  "maximum call depth of " ++ Numeral.intTextUnlimited limit ++ " exceeded"

/-- The wording of a failure, or what comes of the attempt to word it. -/
def message : Failure → Except Failure String
  | .parse e => .ok e.message
  | .depth n => .ok (tooDeep n)
  | .conversion e => .ok e.message
  | .printing e => .ok e.message
  | .template e => .ok e.message
  | .registry e => .ok e.message
  | .definition e => .ok e.message
  | .unfitKey e => .ok e.message
  | .http e => .ok e.message
  | .payload e => .ok e.message
  | .unknownKinds names function =>
    .ok ("unknown kind(s) [" ++ ", ".intercalate (names.map Text.quoted) ++ "] for " ++ function)
  | .noFunction shown => .ok ("Object is not a function descriptor: " ++ shown)
  | .reported _ m => .ok m
  | .wordless _ cause => .error cause

/-- The wording of a failure as it is shown where a program breaks off. -/
def shownMessage (e : Failure) : String :=
  e.message.toOption.getD "<exception str() failed>"

/-- What comes of the attempt to word a failure, where it fails. -/
def unworded? (e : Failure) : Option Failure :=
  match e.message with
  | .error cause => some cause
  | .ok _ => none

theorem unworded?_eq_some_iff {e cause : Failure} :
    e.unworded? = some cause ↔ e.message = .error cause := by
  unfold unworded?
  cases e.message <;> simp

/-- Whether a failure is that of a reader of command strings. -/
def isParse : Failure → Bool
  | .parse _ => true
  | _ => false

theorem exists_of_isParse {e : Failure} (kind : e.isParse = true) : ∃ p, e = .parse p := by
  cases e with
  | parse p => exact ⟨p, rfl⟩
  | _ => cases kind

end Failure

end CommandScript
