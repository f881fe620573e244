import CommandScript.Value.Literal
import CommandScript.Value.Table

/-!
# The store of variables

Tables of variables by name. A variable exists in a table once it has a default or has been set;
what is set hides the default, and taking it away uncovers the default again. A table that was not
declared holds nothing and takes nothing.

## Main definitions

- `CommandScript.Store` — declared tables and defaults
- `CommandScript.Store.get`, `set`, `has`, `delete`, `all`, `declare` — the operations
- `CommandScript.Store.Query` — an operation as a question to whoever keeps the store
- `CommandScript.Store.perform` — the answer to a question
-/

namespace CommandScript

/-- Declared tables with what has been set in them, and the defaults of all tables. -/
structure Store where
  tables : Table (List (Value × Value))
  defaults : List (Value × Value)
  /-- Whether variables can be taken away again. -/
  deletes : Bool

namespace Store

/-- A store with the given tables, in which nothing has been set. -/
def ofTables (names : List String) (defaults : List (Value × Value)) : Store where
  tables := Table.ofList (names.map fun n => (n, []))
  defaults := Value.ofEntries defaults
  deletes := true

/-- The store with a single table. -/
def single : Store := ofTables ["main"] []

/-- What has been set in a table, where it is declared. -/
def tableOf? (s : Store) (table : Value) : Option (List (Value × Value)) :=
  table.text?.bind s.tables.get?

/-- The names of the declared tables. -/
def tableNames (s : Store) : List String := s.tables.keys

/-- The first declared table. -/
def defaultTable (s : Store) : Option String := s.tableNames.head?

/-- Whether a table is declared. -/
def hasTable (s : Store) (table : Value) : Bool := (s.tableOf? table).isSome

/-- The value of a variable: what has been set, or the default, or null. -/
def get (s : Store) (table key : Value) : Value :=
  match s.tableOf? table with
  | none => .null
  | some data => ((Value.lookup? data key).or (Value.lookup? s.defaults key)).getD .null

/-- Sets a variable in a declared table. -/
def set (s : Store) (table key value : Value) : Store :=
  match table.text?, s.tableOf? table with
  | some name, some data =>
    { s with tables := s.tables.insert name (Value.insertEntry data key value) }
  | _, _ => s

/-- Whether a variable exists in a table. -/
def has (s : Store) (table key : Value) : Bool :=
  match s.tableOf? table with
  | none => false
  | some data => (Value.lookup? data key).isSome || (Value.lookup? s.defaults key).isSome

/-- Everything in a table: the defaults first, hidden by what has been set. -/
def all (s : Store) (table : Value) : List (Value × Value) :=
  match s.tableOf? table with
  | none => []
  | some data => data.foldl (fun t e => Value.insertEntry t e.1 e.2) s.defaults

/-- The default of a variable, for a declared table. -/
def defaultValue (s : Store) (key table : Value) : Value :=
  if s.hasTable table then (Value.lookup? s.defaults key).getD .null else .null

/-- Takes away what has been set, and says whether there was anything. -/
def delete (s : Store) (table key : Value) : Bool × Store :=
  match table.text?, s.tableOf? table with
  | some name, some data =>
    if s.deletes && (Value.lookup? data key).isSome then
      (true, { s with tables := s.tables.insert name (Value.eraseEntry data key) })
    else (false, s)
  | _, _ => (false, s)

/-- Declares defaults for all tables. -/
def declare (s : Store) (values : List (Value × Value)) : Store :=
  { s with defaults := values.foldl (fun t e => Value.insertEntry t e.1 e.2) s.defaults }

/-- The literal of a store in messages. -/
def literal (s : Store) : String :=
  "<MemoryDatabase tables=" ++ (Value.list (s.tableNames.map .text)).literal?.getD "" ++ ">"

/-- An operation on a store. -/
inductive Query where
  | tables
  | defaultTable
  | hasTable (table : Value)
  | has (table key : Value)
  | get (table key : Value)
  | set (table key value : Value)
  | delete (table key : Value)
  | all (table : Value)
  | defaultValue (key table : Value)
  | declare (values : List (Value × Value))

/-- Whether values can be the names of a table and of a variable in it; the latter only matters
where the table is declared. -/
def checkNames (s : Store) (table key : Value) : Except UnfitKey Unit :=
  match table.checkKey with
  | .error e => .error e
  | .ok _ => if s.hasTable table then key.checkKey else .ok ()

/-- Whether the names that an operation uses can be names. -/
def check (s : Store) : Query → Except UnfitKey Unit
  | .tables => .ok ()
  | .defaultTable => .ok ()
  | .declare _ => .ok ()
  | .hasTable t => t.checkKey
  | .all t => t.checkKey
  | .has t k => s.checkNames t k
  | .get t k => s.checkNames t k
  | .set t k _ => s.checkNames t k
  | .delete t k => if s.deletes then s.checkNames t k else .ok ()
  | .defaultValue k t => s.checkNames t k

/-- What an operation gives and leaves. -/
def apply (s : Store) : Query → Value × Store
  | .tables => (.list (s.tableNames.map .text), s)
  | .defaultTable => ((s.defaultTable.map .text).getD .null, s)
  | .hasTable t => (.bool (s.hasTable t), s)
  | .has t k => (.bool (s.has t k), s)
  | .get t k => (s.get t k, s)
  | .set t k v => (.null, s.set t k v)
  | .delete t k => ((s.delete t k).map .bool id)
  | .all t => (.map (s.all t), s)
  | .defaultValue k t => (s.defaultValue k t, s)
  | .declare values => (.null, s.declare values)

/-- The answer to an operation, and what it leaves. -/
def perform (s : Store) (q : Query) : Except UnfitKey Value × Store :=
  match s.check q with
  | .error e => (.error e, s)
  | .ok _ => (s.apply q).map .ok id

end Store

end CommandScript
