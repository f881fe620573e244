import CommandScript.Calendar

/-!
# Values

The values that callbacks return, events carry, stores keep and payloads encode. Mappings keep
the order in which their keys were first written.

## Main definitions

- `CommandScript.Value` — a dynamic value
- `CommandScript.Kind` — the five kinds that command strings tell apart
- `CommandScript.Value.kind` — the kind of a value
- `CommandScript.Value.typeName` — the name that messages give to a value's type
- `CommandScript.Value.isTruthy` — whether a value counts as given

## Design notes

`derivedText` and `derivedInt` are texts and whole numbers of a type of their own: they behave as
what they carry wherever the exact type is not asked for. `record` is a mapping of a type of its
own in the same sense. `thing` is any other object: it has a text and attributes.
-/

namespace CommandScript

/-- A dynamic value. -/
inductive Value where
  | null
  | bool (b : Bool)
  | int (n : Int)
  | float (x : Binary64)
  | text (s : String)
  | bytes (bs : List UInt8)
  | buffer (bs : List UInt8)
  | list (xs : List Value)
  | tuple (xs : List Value)
  | set (xs : List Value)
  | frozenSet (xs : List Value)
  | map (entries : List (Value × Value))
  | record (entries : List (Value × Value))
  | date (d : Date)
  | dateTime (t : DateTime)
  | derivedText (s : String)
  | derivedInt (n : Int)
  | thing (shown : String) (attributes : List (String × Value))
  deriving Inhabited

/-- The kinds of values that command strings tell apart. -/
inductive Kind where
  | string
  | number
  | boolean
  | undefined
  | object
  deriving DecidableEq, Repr

/-- The name of a kind. -/
def Kind.name : Kind → String
  | .string => "string"
  | .number => "number"
  | .boolean => "boolean"
  | .undefined => "undefined"
  | .object => "object"

/-- The kind with a given name. -/
def Kind.named? (name : String) : Option Kind :=
  [Kind.string, .number, .boolean, .undefined, .object].find? (·.name == name)

namespace Value

/-- The kind of a value. -/
def kind : Value → Kind
  | .null => .undefined
  | .bool _ => .boolean
  | .int _ => .number
  | .float _ => .number
  | .derivedInt _ => .number
  | .text _ => .string
  | .derivedText _ => .string
  | _ => .object

/-- The name that messages give to the type of a value. -/
def typeName : Value → String
  | .null => "NoneType"
  | .bool _ => "bool"
  | .int _ => "int"
  | .float _ => "float"
  | .text _ => "str"
  | .bytes _ => "bytes"
  | .buffer _ => "bytearray"
  | .list _ => "list"
  | .tuple _ => "tuple"
  | .set _ => "set"
  | .frozenSet _ => "frozenset"
  | .map _ => "dict"
  | .record _ => "OrderedDict"
  | .date _ => "date"
  | .dateTime _ => "datetime"
  | .derivedText _ => "StrSub"
  | .derivedInt _ => "IntSub"
  | .thing .. => "Thing"

/-- The name of a value's type with the collection that the type belongs to, where messages give
that too. -/
def fullTypeName : Value → String
  | .record _ => "collections.OrderedDict"
  | .date _ => "datetime.date"
  | .dateTime _ => "datetime.datetime"
  | v => v.typeName

/-- The text of a value that is one. -/
def text? : Value → Option String
  | .text s => some s
  | .derivedText s => some s
  | _ => none

/-- The entries of a value that is a mapping. -/
def entries? : Value → Option (List (Value × Value))
  | .map es => some es
  | .record es => some es
  | _ => none

/-- The items of a value that is a list or a tuple. -/
def sequence? : Value → Option (List Value)
  | .list xs => some xs
  | .tuple xs => some xs
  | _ => none

/-- Whether a value counts as given: it is not null, false, zero or empty. -/
def isTruthy : Value → Bool
  | .null => false
  | .bool b => b
  | .int n => n ≠ 0
  | .derivedInt n => n ≠ 0
  | .float x => !x.isZero
  | .text s => s ≠ ""
  | .derivedText s => s ≠ ""
  | .bytes bs => !bs.isEmpty
  | .buffer bs => !bs.isEmpty
  | .list xs => !xs.isEmpty
  | .tuple xs => !xs.isEmpty
  | .set xs => !xs.isEmpty
  | .frozenSet xs => !xs.isEmpty
  | .map es => !es.isEmpty
  | .record es => !es.isEmpty
  | .date _ => true
  | .dateTime _ => true
  | .thing .. => true

mutual

/-- The first part of a value that can change, where there is one. -/
def changeable? : Value → Option Value
  | .list xs => some (.list xs)
  | .map es => some (.map es)
  | .record es => some (.record es)
  | .set xs => some (.set xs)
  | .buffer bs => some (.buffer bs)
  | .tuple xs => firstChangeable? xs
  | _ => none

/-- The first part of values that can change, where there is one. -/
def firstChangeable? : List Value → Option Value
  | [] => none
  | x :: xs =>
    match x.changeable? with
    | some v => some v
    | none => firstChangeable? xs

end

/-- Whether a value may be a key: no part of it can change. -/
def isHashable (v : Value) : Bool := v.changeable?.isNone

end Value

end CommandScript
