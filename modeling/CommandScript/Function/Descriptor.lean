import CommandScript.Failure
import CommandScript.Text.Case
import CommandScript.Text.Split

/-!
# Descriptors of functions

A function is called by any spelling of its name: letter case and dollar signs in front do not
count. What counts is the key of the name.

A function is described by its name, what it does when it is called, and the least version of the
runtime that it needs. What it does is a callback of the host, or a body that is itself a command
string with parameters.

## Main definitions

- `CommandScript.FunctionName.key` — what counts of a name
- `CommandScript.FunctionName.ofWords` — the name that is made of several words
- `CommandScript.Descriptor` — a function as registries keep it
- `CommandScript.Draft` — what may be given in place of a descriptor
- `CommandScript.Draft.descriptor` — the descriptor of a draft

## Design notes

The type of callbacks is left open here, because callbacks themselves may give drafts to registries.
-/

namespace CommandScript

namespace FunctionName

/-- What counts of a name: small letters, without dollar signs in front. -/
def key (name : String) : String :=
  String.ofList (Text.lower (name.toList.dropWhile (· = '$')))

/-- The name that is made of words with underscores between them: each but the first begins with a
capital letter. Underscores in front are dropped. -/
def ofWords (words : String) : String :=
  match Text.splitAt '_' (words.toList.dropWhile (· = '_')) with
  | [] => "$"
  | head :: rest => String.ofList ('$' :: head ++ rest.flatMap Text.title)

end FunctionName

/-- A function as registries keep it. -/
inductive Descriptor (C : Type) where
  | native (name : String) (callback : C) (version : Value)
  | scripted (name : String) (code : Value) (params : List Value) (version : Value)
  /-- A descriptor that says nothing about what the function does. -/
  | other (name : String)

namespace Descriptor

variable {C : Type}

/-- The name of a function as it was given. -/
def name : Descriptor C → String
  | .native n _ _ => n
  | .scripted n _ _ _ => n
  | .other n => n

/-- The key of a function. -/
def key (d : Descriptor C) : String := FunctionName.key d.name

/-- The least version of the runtime that a function needs, null where it needs none. -/
def version : Descriptor C → Value
  | .native _ _ v => v
  | .scripted _ _ _ v => v
  | .other _ => .null

/-- The literal of a descriptor in messages. -/
def literal (d : Descriptor C) : String :=
  match d with
  | .native .. => "<NativeFunction $" ++ d.key ++ ">"
  | .scripted _ _ params _ =>
    "<DslFunction $" ++ d.key ++ " params=" ++ (Value.list params).literal?.getD "" ++ ">"
  | .other _ => "<alien>"

end Descriptor

/-- What may be given in place of a descriptor. -/
inductive Draft (C : Type) where
  | descriptor (d : Descriptor C)
  /-- A mapping, whose callback is kept apart where it has one. -/
  | fields (entries : List (Value × Value)) (callback : Option C)
  | named (name : String) (callback : C)
  | anonymous
  /-- A value that is no function; a mapping among them has fields. -/
  | value (v : Value)

namespace Draft

variable {C : Type}

/-- The text of a value that is used as a name. -/
def nameText : Value → Except DefinitionError String
  | .text s => .ok s
  | .derivedText s => .ok s
  | .bytes _ => .error .noNameBytes
  | .buffer _ => .error .noNameBytes
  | v => .error (.noNameText v.fullTypeName)

/-- The parameters that a value gives. -/
def params (v : Value) : Except DefinitionError (List Value) :=
  match v.entries?, Http.items? v with
  | some es, _ => .ok (es.map (·.1))
  | none, some xs => .ok xs
  | none, none => .error (.noParameters v.fullTypeName)

/-- Whether a mapping describes a body: it has one, and is not said to be something else. -/
def hasBody (entries : List (Value × Value)) : Bool :=
  (Value.lookupText? entries "code").isSome &&
    !(Value.equal ((Value.lookupText? entries "type").getD (.text "dsl")) (.text "native"))

/-- A value that counts as given, or another in its place. -/
def givenOr (v : Option Value) (default : Value) : Value := (v.filter Value.isTruthy).getD default

/-- The descriptor that the fields of a mapping describe. The name has to be a text; whether it is,
is found out last. -/
def ofFields (entries : List (Value × Value)) (callback : Option C) :
    Except DefinitionError (Descriptor C) := do
  let field := Value.lookupText? entries
  let name := givenOr (field "name") (.text "")
  let version := (field "version").getD .null
  if hasBody entries then
    let params ← params (givenOr (field "params") (.tuple []))
    return .scripted (← nameText name) ((field "code").getD .null) params version
  else
    match callback with
    | some c => return .native (← nameText name) c version
    | none =>
      match name.literalText with
      | .ok l => throw (.noBody l)
      | .error e => throw (.unwritable e)

/-- The descriptor of a draft. -/
def toDescriptor : Draft C → Except DefinitionError (Descriptor C)
  | .descriptor d => .ok d
  | .fields entries callback => ofFields entries callback
  | .named name callback =>
    if name = "" ∨ name = "<lambda>" then .error .anonymous
    else .ok (.native ("$" ++ name) callback .null)
  | .anonymous => .error .anonymous
  | .value v =>
    match v.entries? with
    | some es => ofFields es none
    | none => .error (.noDefinition v.typeName)

/-- The drafts that are meant by one: the items of a list, or the draft itself. -/
def items : Draft C → List (Draft C)
  | .value (.list vs) => vs.map .value
  | .value (.tuple vs) => vs.map .value
  | d => [d]

end Draft

end CommandScript
