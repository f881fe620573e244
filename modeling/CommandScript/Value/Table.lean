import CommandScript.Value.Equality

/-!
# Tables in order of insertion

A table is a list of entries in which no key occurs twice. Writing a key that is there keeps its
place and the key as it was first written, and replaces what stands under it.

## Main definitions

- `CommandScript.Table.get?`, `insert`, `erase`, `ofList` — tables with text keys
- `CommandScript.Value.lookup?`, `insertEntry`, `ofEntries` — tables with values as keys
- `CommandScript.Value.ofItems` — the distinct values of a list
- `CommandScript.UnfitKey` — the refusal of a value as a key

## Main results

- `CommandScript.Table.get?_insert` — what is read after an insertion
- `CommandScript.Table.get?_erase` — what is read after a removal
-/

namespace CommandScript

/-- The refusal of a key whose type admits change. -/
structure UnfitKey where
  typeName : String
  deriving DecidableEq, Repr

/-- The wording of a refusal. -/
def UnfitKey.message (e : UnfitKey) : String := "unhashable type: '" ++ e.typeName ++ "'"

/-- Entries with text keys, in the order in which the keys were first written. -/
abbrev Table (α : Type) := List (String × α)

namespace Table

variable {α : Type}

/-- What stands under a key. -/
def get? (t : Table α) (key : String) : Option α :=
  match t with
  | [] => none
  | (k, v) :: rest => if k = key then some v else get? rest key

/-- Whether a key is there. -/
def contains (t : Table α) (key : String) : Bool := (t.get? key).isSome

/-- The keys in order. -/
def keys (t : Table α) : List String := t.map (·.1)

/-- Writes a key: in its place where it is there, at the end where it is new. -/
def insert (t : Table α) (key : String) (value : α) : Table α :=
  match t with
  | [] => [(key, value)]
  | (k, v) :: rest => if k = key then (k, value) :: rest else (k, v) :: insert rest key value

/-- Takes a key out. -/
def erase (t : Table α) (key : String) : Table α :=
  match t with
  | [] => []
  | (k, v) :: rest => if k = key then erase rest key else (k, v) :: erase rest key

/-- Writes all entries of a list in turn. -/
def insertAll (t : Table α) (entries : List (String × α)) : Table α :=
  entries.foldl (fun t e => t.insert e.1 e.2) t

/-- The table that results from writing all entries of a list in turn. -/
def ofList (entries : List (String × α)) : Table α := insertAll [] entries

/-- Reading after writing. -/
theorem get?_insert (t : Table α) (key other : String) (value : α) :
    (t.insert key value).get? other = if key = other then some value else t.get? other := by
  induction t with
  | nil => simp [insert, get?]
  | cons e rest ih =>
    obtain ⟨k, v⟩ := e
    grind [insert, get?]

/-- Reading after taking out. -/
theorem get?_erase (t : Table α) (key other : String) :
    (t.erase key).get? other = if key = other then none else t.get? other := by
  induction t with
  | nil => simp [erase, get?]
  | cons e rest ih =>
    obtain ⟨k, v⟩ := e
    grind [erase, get?]

end Table

namespace Value

/-- Whether a value can be a key; the refusal names the part that can change. -/
def checkKey (v : Value) : Except UnfitKey Unit :=
  match v.changeable? with
  | none => .ok ()
  | some part => .error ⟨part.fullTypeName⟩

/-- What stands under a key. -/
def lookup? (entries : List (Value × Value)) (key : Value) : Option Value :=
  (entries.find? fun e => e.1.sameKey key).map (·.2)

/-- What stands under a text key. -/
def lookupText? (entries : List (Value × Value)) (key : String) : Option Value :=
  lookup? entries (.text key)

/-- Writes a key: in its place where it is there, at the end where it is new. -/
def insertEntry (entries : List (Value × Value)) (key value : Value) : List (Value × Value) :=
  match entries with
  | [] => [(key, value)]
  | (k, v) :: rest =>
    if k.sameKey key then (k, value) :: rest else (k, v) :: insertEntry rest key value

/-- Takes a key out. -/
def eraseEntry (entries : List (Value × Value)) (key : Value) : List (Value × Value) :=
  entries.filter fun e => !e.1.sameKey key

/-- The table that results from writing all entries of a list in turn. -/
def ofEntries (entries : List (Value × Value)) : List (Value × Value) :=
  entries.foldl (fun t e => insertEntry t e.1 e.2) []

/-- The distinct values of a list, each where it first occurs. -/
def ofItems (items : List Value) : List Value :=
  items.foldl (fun xs x => if xs.any (·.sameKey x) then xs else xs ++ [x]) []

/-- A mapping with text keys. -/
def ofTable (t : Table Value) : Value := .map (t.map fun e => (.text e.1, e.2))

end Value

end CommandScript
