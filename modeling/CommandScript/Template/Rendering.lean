import CommandScript.File
import CommandScript.Program
import CommandScript.Template
import CommandScript.Value.Literal
import CommandScript.Value.Table

/-!
# Templates with values put in

A template is rendered among values, the innermost of which comes first. Templates that it includes
are files beside each other, which are only opened where they are shown; one that is missing gives
nothing. A template that is given as a value other than a text is a file named for the type of that
value.

## Main definitions

- `CommandScript.Template.Opening` — the questions that come up: files to be opened
- `CommandScript.Template.resolve` — the value of a name among values
- `CommandScript.Template.renderText` — a text with values put in
- `CommandScript.Template.render` — a template with the values of a mapping put in

## Design notes

Which values a name is looked up in, and what counts as given in a section, are rules of the
renderer that bodies are written for, and assumed like those of `CommandScript.Template`.
-/

namespace CommandScript.Template

open Text

/-- The questions that come up in rendering: files to be opened, by their paths. -/
def Opening : Signature := ⟨String, fun _ => Opened⟩

/-- Rendering, which may open files and may fail. -/
abbrev Rendering := ExceptT Error (Program Opening)

/-- What stands under a name in a value, which has to have entries or attributes. -/
def member? (v : Value) (name : List Char) : Option Value :=
  match v with
  | .thing _ attributes => Table.get? attributes (String.ofList name)
  | v => v.entries?.bind fun es => Value.lookupText? es (String.ofList name)

/-- The value of a name among values, the innermost first. Only the first part of a dotted name is
looked for in all of them. -/
def resolve (stack : List Value) (name : List Char) : Value :=
  if name = ['.'] then stack.head?.getD (.text "")
  else
    match splitAt '.' name with
    | [] => .text ""
    | head :: rest =>
      let start := stack.findSome? fun v => member? v head
      (rest.foldl (fun v part => v.bind fun w => member? w part) start).getD (.text "")

/-- The characters of UTF-8. -/
def decoded (bytes : List UInt8) : Except Error (List Char) :=
  (Utf8.decode bytes).mapError .notUtf8

/-- The text of a value. -/
def shown (v : Value) : Except Error (List Char) :=
  match v with
  | .bytes bs => decoded bs
  | v => .ok v.plain.toList

/-- The values for which a section of a value is shown: the items of a collection, and any other
value that counts as true. -/
def occasions (v : Value) : List Value :=
  if !v.isTruthy then []
  else
    match v with
    | .set xs => xs
    | .frozenSet xs => xs
    | .buffer bs => bs.map fun b => .int b.toNat
    | v => v.sequence?.getD [v]

/-- The path of the template of a name. -/
def path (name : String) : String :=
  let file := name ++ ".mustache"
  if name.toList.head? = some '/' then file else "./" ++ file

/-- The characters of the template of a name, if there is one. -/
def load? (name : String) : Rendering (Option (List Char)) := do
  let answer : Opened ← Program.query (S := Opening) (FileName.plain (path name))
  match answer with
  | .ok bytes => return some (← decoded bytes)
  | .error .directory => throw (.unopened (path name) .directory)
  | .error _ => return none

/-- A text with each of its lines indented, except empty ones; `atStart` says whether a line starts
here. -/
def indented (indent : List Char) (atStart : Bool) : List Char → List Char
  | [] => []
  | '\n' :: cs => '\n' :: indented indent true cs
  | c :: cs => (if atStart then indent else []) ++ c :: indented indent false cs

/-- How a template is included among values, given its name and what its lines are indented by. -/
abbrev Inclusion := List Value → (name indent : List Char) → Rendering (List Char)

/-- The texts for values one after the other. -/
def joined (text : Value → Rendering (List Char)) : List Value → Rendering (List Char)
  | [] => return []
  | v :: vs => do
    let cs ← text v
    return cs ++ (← joined text vs)

mutual

/-- The text of a part among values. -/
def renderNode (inclusion : Inclusion) (stack : List Value) : Node → Rendering (List Char)
  | .text cs => return cs
  | .value name => shown (resolve stack name)
  | .inclusion name indent => inclusion stack name indent
  | .block inverted name inner =>
    let vs := occasions (resolve stack name)
    if inverted then
      if vs.isEmpty then renderNodes inclusion stack inner else return []
    else joined (fun v => renderNodes inclusion (v :: stack) inner) vs

/-- The text of parts among values. -/
def renderNodes (inclusion : Inclusion) (stack : List Value) : List Node → Rendering (List Char)
  | [] => return []
  | n :: ns => do
    let cs ← renderNode inclusion stack n
    return cs ++ (← renderNodes inclusion stack ns)

end

/-- Includes a template, in which so many templates may be inside one another. -/
def included : (depth : Nat) → Inclusion
  | 0, _, _, _ => throw .endless
  | d + 1, stack, name, indent => do
    match ← load? (String.ofList name) with
    | none => return []
    | some cs => renderNodes (included d) stack (← parse (indented indent true cs))

/-- How many templates may be inside one another. -/
def depthLimit : Nat := 200

/-- A text with values put in, the innermost of which comes first. -/
def renderText (stack : List Value) (cs : List Char) : Rendering (List Char) := do
  renderNodes (included depthLimit) stack (← parse cs)

/-- The name under which a template for values of a type is looked for. -/
def nameOfType (typeName : String) : String :=
  let spread := typeName.toList.flatMap fun c => if c.isUpper then ['_', c.toLower] else [c]
  String.ofList (spread.drop 1)

/-- The values that a template brings with it which is given as a value: all but null. -/
def ownValues : Value → List Value
  | .null => []
  | v => [v]

/-- A template with the values of a mapping put in. A template that is found under the name of its
type has its own values put in where the mapping has none. -/
def render (template : Value) (bindings : List (Value × Value)) : Rendering (List Char) :=
  match template with
  | .bytes bs => do renderText [.map bindings] (← decoded bs)
  | v =>
    match v.text? with
    | some s => renderText [.map bindings] s.toList
    | none => do
      let name := nameOfType v.typeName
      match ← load? name with
      | some cs => renderText (.map bindings :: ownValues v) cs
      | none => throw (.noFile (name ++ ".mustache"))

end CommandScript.Template
