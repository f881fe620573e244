import CommandScript.Function.Routine

/-!
# Registries of functions

A registry holds functions under their keys and may be layered over other registries: a name is
looked up in the registry itself and then in those below it, the nearest first. A change only ever
touches the registry that it is made to. A change of several functions is made one by one and stops
at the first that is refused.

## Main definitions

- `CommandScript.Registry`, `CommandScript.Registries` — one registry, and all that there are
- `CommandScript.Registries.find?`, `owner?`, `names`, `size` — what can be seen from a registry
- `CommandScript.Registries.apply` — making a change
- `CommandScript.Registries.load` — registering callbacks in bulk
- `CommandScript.Registries.layer` — a registry over another one

## Design notes

A registry is referred to by the order of its creation. The registries below it are kept with it,
so that looking up a name is a search through a list and needs no bound.
-/

namespace CommandScript

/-- A reference to a registry. -/
abbrev Handle := Nat

/-- A registry: the version of the runtime, null where it is not known, the registries below, the
nearest first, and the functions that it holds itself. -/
structure Registry where
  version : Value
  below : List Handle
  entries : Table (Descriptor Callback)

/-- All registries, in order of creation. -/
structure Registries where
  all : List Registry

/-- What a registry tells about a change that was made. -/
inductive Notice where
  | registered (key : String)
  | replaced (key : String)
  | removed (key : String)
  deriving DecidableEq, Repr

/-- The wording of a notice. -/
def Notice.message : Notice → String
  | .registered k => "registered function $" ++ k
  | .replaced k => "replaced function $" ++ k
  | .removed k => "removed function $" ++ k

namespace Registry

/-- A registry of its own, without functions. -/
def empty (version : Value) : Registry := ⟨version, [], []⟩

/-- The version that a function needs: nothing given counts as zero. -/
def required (d : Descriptor Callback) : Value :=
  if d.version.isTruthy then d.version else .int 0

/-- The key under which a registry accepts a function: one that is not empty, for a function that
needs no newer runtime. -/
def accept (r : Registry) (d : Descriptor Callback) : Except Failure String :=
  if d.key = "" then .error (.registry .noName)
  else
    match r.version with
    | .null => .ok d.key
    | running =>
      match (required d).exceeds running, (required d).plainText with
      | .error e, _ => .error (.definition (.noVersion e))
      | .ok false, _ => .ok d.key
      | .ok true, .error e => .error (.conversion e)
      | .ok true, .ok _ => .error (.registry (.versionMismatch d.key (required d) running))

end Registry

/-- The key of a value that is used as a name. -/
def FunctionName.keyOf (name : Value) : Except Failure String :=
  match Draft.nameText name with
  | .ok s => .ok (FunctionName.key s)
  | .error e => .error (.definition e)

/-- The names that are meant by a value: the items of a list, or the value itself. -/
def FunctionName.items : Value → List Value
  | .list ns => ns
  | .tuple ns => ns
  | n => [n]

/-- What a change leaves, what is told about it, and why it stopped where it did. -/
structure Changed where
  registries : Registries
  notices : List Notice
  failure : Option Failure

namespace Registries

/-- The functions that a registry holds itself. -/
def entries (rs : Registries) (h : Handle) : Table (Descriptor Callback) :=
  (rs.all[h]?.map Registry.entries).getD []

/-- A registry and those below it, the nearest first. -/
def chain (rs : Registries) (h : Handle) : List Handle :=
  h :: (rs.all[h]?.map Registry.below).getD []

/-- The nearest registry that holds a key. -/
def owner? (rs : Registries) (h : Handle) (key : String) : Option Handle :=
  (rs.chain h).find? fun a => (rs.entries a).contains key

/-- The function that is found under a key. -/
def find? (rs : Registries) (h : Handle) (key : String) : Option (Descriptor Callback) :=
  (rs.owner? h key).bind fun a => (rs.entries a).get? key

/-- All keys that can be seen from a registry, those of the registries below first. -/
def names (rs : Registries) (h : Handle) : List String :=
  ((rs.chain h).reverse.flatMap fun a => (rs.entries a).keys).eraseDups

/-- The number of keys that can be seen from a registry. -/
def size (rs : Registries) (h : Handle) : Nat := (rs.names h).length

/-- The function that is found under a name. -/
def lookup (rs : Registries) (h : Handle) (name : Value) :
    Except Failure (Option (Descriptor Callback)) :=
  (FunctionName.keyOf name).map (rs.find? h)

/-- The functions that are found under one or several names. -/
inductive Found where
  | one (d : Option (Descriptor Callback))
  | many (ds : List (Option (Descriptor Callback)))

/-- The function that is found under a name, or those under each name of a list. -/
def get (rs : Registries) (h : Handle) (name : Value) : Except Failure Found :=
  match name with
  | .list [] => .error (.registry .nothingNamed)
  | .list ns => (ns.mapM (rs.lookup h)).map .many
  | n => (rs.lookup h n).map .one

/-- Whether there is a function under a name, or under each name of a list. -/
def has (rs : Registries) (h : Handle) (name : Value) : Except Failure Value :=
  match name with
  | .list ns =>
    (ns.mapM fun n => (rs.lookup h n).map fun d =>
      Value.ofTable [("name", n), ("result", .bool d.isSome)]).map .list
  | n =>
    match n.text? with
    | none => .error (.registry (.noNameType n.typeName))
    | some s => .ok (.bool (rs.find? h (FunctionName.key s)).isSome)

/-- Whether a value is a name under which there is a function. -/
def isMember (rs : Registries) (h : Handle) (name : Value) : Bool :=
  name.text?.any fun s => (rs.find? h (FunctionName.key s)).isSome

/-- The registries after one of them has got other functions. -/
def modify (rs : Registries) (h : Handle)
    (f : Table (Descriptor Callback) → Table (Descriptor Callback)) : Registries :=
  ⟨rs.all.modify h fun r => { r with entries := f r.entries }⟩

/-- The registry to which a reference refers. -/
def registry (rs : Registries) (h : Handle) : Registry := rs.all[h]?.getD (.empty .null)

/-- The descriptor of a draft, and the key under which a registry accepts it. -/
def accept (rs : Registries) (h : Handle) (d : Draft Callback) :
    Except Failure (String × Descriptor Callback) :=
  match d.toDescriptor with
  | .error e => .error (.definition e)
  | .ok d => ((rs.registry h).accept d).map (·, d)

/-- Registers a function under a key that cannot be seen yet. -/
def add (h : Handle) (rs : Registries) (d : Draft Callback) :
    Except Failure (Registries × List Notice) := do
  let (key, d) ← rs.accept h d
  match rs.owner? h key with
  | some _ => throw (.registry (.duplicate key))
  | none => return (rs.modify h (·.insert key d), [.registered key])

/-- Registers a function whether or not there is one under its key. -/
def ensure (h : Handle) (rs : Registries) (d : Draft Callback) :
    Except Failure (Registries × List Notice) := do
  let (key, d) ← rs.accept h d
  return (rs.modify h (·.insert key d), [])

/-- Replaces a function that the registry holds itself. -/
def edit (h : Handle) (rs : Registries) (d : Draft Callback) :
    Except Failure (Registries × List Notice) :=
  match d.toDescriptor with
  | .error e => .error (.definition e)
  | .ok d =>
    if (rs.entries h).contains d.key then
      .ok (rs.modify h (·.insert d.key d), [.replaced d.key])
    else .error (.registry (.editUnknown d.key))

/-- Takes away a function that the registry holds itself. -/
def remove (h : Handle) (rs : Registries) (name : Value) :
    Except Failure (Registries × List Notice) := do
  let key ← FunctionName.keyOf name
  if (rs.entries h).contains key then return (rs.modify h (·.erase key), [.removed key])
  else throw (.registry (.removeUnknown key))

/-- Makes changes one by one, up to the first that is refused. -/
def steps {α : Type} (step : Registries → α → Except Failure (Registries × List Notice)) :
    Registries → List α → Changed
  | rs, [] => ⟨rs, [], none⟩
  | rs, a :: as =>
    match step rs a with
    | .error e => ⟨rs, [], some e⟩
    | .ok (rs, notices) =>
      let rest := steps step rs as
      { rest with notices := notices ++ rest.notices }

/-- Changes that have to name something. -/
def someSteps {α : Type} (step : Registries → α → Except Failure (Registries × List Notice))
    (rs : Registries) (as : List α) : Changed :=
  match as with
  | [] => ⟨rs, [], some (.registry .noName)⟩
  | as => steps step rs as

/-- Makes a change to a registry. -/
def apply (rs : Registries) (h : Handle) : Change Callback → Changed
  | .add ds => steps (add h) rs ds
  | .ensure ds => steps (ensure h) rs ds
  | .edit ds => someSteps (edit h) rs ds
  | .remove ns => someSteps (remove h) rs ns

/-- Those of some callbacks whose keys are not among the keys of disabled names. -/
def enabled (callbacks : Table Callback) (disabled : List String) : Table Callback :=
  callbacks.filter fun c => !(disabled.map FunctionName.key).contains (FunctionName.key c.1)

/-- The change that registers callbacks under their names. -/
def additions (callbacks : Table Callback) : Change Callback :=
  .add (callbacks.map fun c => .descriptor (.native c.1 c.2 .null))

/-- Registers callbacks under their names, but for disabled ones. -/
def load (rs : Registries) (h : Handle) (callbacks : Table Callback) (disabled : List String) :
    Changed :=
  rs.apply h (additions (enabled callbacks disabled))

/-- The number of functions that were registered in bulk, or why it stopped before the last. -/
def loaded (c : Changed) : Except Failure Nat :=
  match c.failure with
  | some e => .error e
  | none => .ok c.notices.length

/-- The registries with one more. -/
def push (rs : Registries) (r : Registry) : Registries := ⟨rs.all ++ [r]⟩

/-- The reference that the next registry will get. -/
def next (rs : Registries) : Handle := rs.all.length

/-- A registry over another one, without functions of its own. -/
def child (rs : Registries) (base : Handle) (version : Value) : Registry :=
  ⟨version, rs.chain base, []⟩

/-- A registry over another one that holds the given functions. If one of them is refused, there is
no such registry. -/
def layer (rs : Registries) (base : Handle) (ds : List (Draft Callback)) :
    Except Failure Handle × Registries :=
  let layered := rs.push (rs.child base (rs.registry base).version)
  let changed := layered.apply rs.next (.ensure ds)
  -- A refusal leaves the registries as they were before the new one.
  match changed.failure with
  | none => (.ok rs.next, changed.registries)
  | some e => (.error e, rs)

/-- The literal of a registry in messages. -/
def literal (rs : Registries) (h : Handle) : String :=
  "<FunctionRegistry functions=" ++ toString (rs.entries h).length ++ ">"

end Registries

end CommandScript
