import CommandScript.Json.Reader
import CommandScript.Json.Writer
import CommandScript.Text.Case
import CommandScript.Text.Charset
import CommandScript.Yaml.Loader
import CommandScript.Yaml.Writer

/-!
# Payloads

What is received from outside as bytes or text, and what is sent or shown, in JSON or YAML. Reading
is lenient: what does not read as JSON is tried as YAML, and what does not read at all is a text.

## Main definitions

- `CommandScript.Payload.format?` — the format that a content type and a text suggest
- `CommandScript.Payload.charsetName?` — the character set that a content type names
- `CommandScript.Payload.selected` — the format that a payload is read in
- `CommandScript.Payload.read` — the value of a payload
- `CommandScript.Payload.readObject` — the list or mapping that a text encodes
- `CommandScript.Payload.write` — the text of a value in a format
-/

namespace CommandScript.Payload

open Text

/-- Whether a text contains another. -/
def contains (pattern : List Char) : List Char → Bool
  | [] => pattern.isEmpty
  | c :: cs => pattern.isPrefixOf (c :: cs) || contains pattern cs

/-- Whether a text starts like a collection of JSON. -/
def opensCollection (cs : List Char) : Bool := cs.head? = some '\x7b' || cs.head? = some '['

/-- The format that a content type names, or that the start of a text suggests. -/
def format? (contentType hint : Option String) : Option String :=
  let ct := lower (contentType.getD "").toList
  if contains "json".toList ct then some "json"
  else if contains "yaml".toList ct then some "yaml"
  else if hint.any fun h => opensCollection (trimLeft h.toList) then some "json"
  else none

/-- A letter without regard to case; the long s is an s. -/
def plainLetter (c : Char) : Char := if c = 'ſ' then 's' else c.toLower

/-- The value of the parameter `charset=` at the front of a text. -/
def charsetAt? (cs : List Char) : Option (List Char) :=
  if "charset".toList.isPrefixOf ((cs.take 7).map plainLetter) then
    match trimLeft (cs.drop 7) with
    | '=' :: rest =>
      let value := (trimLeft rest).takeWhile fun c => !(isBlank c || c = ';')
      if value.isEmpty then none else some value
    | _ => none
  else none

/-- The first value of a parameter `charset=` in a text. -/
def firstCharset? : List Char → Option (List Char)
  | [] => none
  | c :: cs => (charsetAt? (c :: cs)).or (firstCharset? cs)

/-- A text without the characters `c` at its ends. -/
def strip (c : Char) (cs : List Char) : List Char := dropEndWhile (· = c) (cs.dropWhile (· = c))

/-- The character set that a content type names, without quotes around it. -/
def charsetName? (contentType : Option String) : Option (List Char) :=
  (firstCharset? (contentType.getD "").toList).map fun v => strip '\'' (strip '"' v)

/-- The text of bytes in the character set that a content type names; UTF-8 where it names none
that is known. -/
def decoded (contentType : Option String) (bs : List UInt8) :
    Except Charset.Refusal (List Char) :=
  let name := (charsetName? contentType).getD []
  if name.contains '\x00' then .error .nullInName
  else
    match Charset.named? name with
    | some charset => charset.decode (String.ofList name) bs
    | none => .ok (Utf8.decodeLossy bs)

/-- Why received data is not read. -/
inductive ReadError where
  | charset (e : Charset.Refusal)
  | conversion (e : ConversionError)
  | yaml (e : Yaml.ReadError)
  deriving DecidableEq, Repr

namespace ReadError

/-- The word for the kind of an error. -/
def kind : ReadError → String
  | .charset e => e.kind
  | .conversion e => e.kind
  | .yaml e => e.kind

/-- The wording of an error. -/
def message : ReadError → String
  | .charset e => e.message
  | .conversion e => e.message
  | .yaml e => e.message

end ReadError

/-- The text of received data; other values than bytes and texts are shown. -/
def textOf (contentType : Option String) (data : Value) : Except ReadError String :=
  match data with
  | .bytes bs => ((decoded contentType bs).map String.ofList).mapError .charset
  | .buffer bs => ((decoded contentType bs).map String.ofList).mapError .charset
  | v => v.plainText.mapError .conversion

section Reading

variable [Yaml.Loader]

/-- The value of a YAML text; a malformed text stands for itself. -/
def readYaml (s : String) : Except ReadError Value :=
  match Yaml.Loader.load s.toList with
  | .error .malformed => .ok (.text s)
  | r => r.mapError .yaml

/-- The value of a text in a format; unknown formats leave it as it is. -/
def readText (format : Option String) (s : String) : Except ReadError Value :=
  if format = some "json" then
    match Json.read s.toList with
    | .ok v => .ok v
    | .error (.tooManyDigits n) => .error (.conversion (.tooManyDigits n))
    -- Most that looks like JSON but is not can still be read as YAML.
    | .error .malformed => readYaml s
  else if format = some "yaml" then readYaml s
  else .ok (.text s)

/-- The format of a received text: one that is given counts before the one that is found out. -/
def selected (contentType format : Option String) (s : String) : Option String :=
  (format.filter (· ≠ "")).or (format? contentType (some s))

/-- The value of received data. -/
def read (data : Value) (contentType format : Option String) : Except ReadError Value := do
  let s ← textOf contentType data
  readText (selected contentType format s) s

end Reading

/-- The list or mapping that a text encodes in JSON. -/
def readObject (cs : List Char) : Except ConversionError (Option Value) :=
  let body := trim cs
  -- Numbers, words and texts are JSON too, but they are no collections.
  if opensCollection body then
    match Json.read body with
    | .ok v => .ok (some v)
    | .error (.tooManyDigits n) => .error (.tooManyDigits n)
    | .error .malformed => .ok none
  else .ok none

/-- Why a value is not written. -/
inductive WriteError where
  | conversion (e : ConversionError)
  /-- The literal of a format that is not known. -/
  | unknownFormat (literal : String)
  | json (e : Json.WriteError)
  | yaml (e : Yaml.WriteError)
  deriving DecidableEq, Repr

namespace WriteError

/-- The word for the kind of an error. -/
def kind : WriteError → String
  | .conversion e => e.kind
  | .unknownFormat _ => "ValueError"
  | .json (.unserializable _) => "TypeError"
  | .json (.conversion e) => e.kind
  | .yaml (.unrepresentable _) => "RepresenterError"
  | .yaml (.conversion e) => e.kind

/-- The wording of an error. -/
def message : WriteError → String
  | .conversion e => e.message
  | .unknownFormat l => "Unsupported serialization format: " ++ l
  | .json (.unserializable t) => "Object of type " ++ t ++ " is not JSON serializable"
  | .json (.conversion e) => e.message
  | .yaml (.unrepresentable l) => "('cannot represent an object', " ++ l ++ ")"
  | .yaml (.conversion e) => e.message

end WriteError

/-- The JSON text of a simplified value. -/
def writeJson (pretty : Bool) (v : Value) : Except WriteError String :=
  match Json.write (if pretty then .indented 0 else .compact) v with
  | .ok cs => .ok (String.ofList cs)
  | .error e => .error (.json e)

/-- The YAML text of a simplified value. -/
def writeYaml (v : Value) : Except WriteError String :=
  match Yaml.write v with
  | .ok cs => .ok (String.ofList cs)
  | .error e => .error (.yaml e)

/-- The literal of the name of a format. -/
def formatLiteral (format : Option String) : String := (format.map quoted).getD "None"

/-- The text of a value in a format. -/
def write (v : Value) (format : Option String) (pretty : Bool) : Except WriteError String :=
  let name := lowered (format.getD "")
  match v.simplified with
  | .error e => .error (.conversion e)
  | .ok built =>
    if name = "json" then writeJson pretty built
    else if name = "yaml" then writeYaml built
    else .error (.unknownFormat (formatLiteral format))

end CommandScript.Payload
