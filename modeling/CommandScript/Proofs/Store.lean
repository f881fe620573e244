import CommandScript.Store

/-!
# What operations on a store depend on

An operation on a store reads some parts of it: what has been set under a name in a table, the
default of a name, or all of these at once. Two stores with the same tables that agree on the parts
that an operation reads give the same answer to it; and on what they agree before an operation, they
agree afterwards.

## Main definitions

- `CommandScript.Store.Part` — the parts of a store
- `CommandScript.Store.Part.Agrees` — when two stores agree on a part
- `CommandScript.Store.reads` — the parts that an operation reads

## Main results

- `CommandScript.Store.perform_congr` — the answer depends only on what is read
- `CommandScript.Store.agrees_perform` — the same operation on both keeps two stores in agreement
-/

namespace CommandScript

namespace Value

/-- Keys that are one are the same text, if they are texts. -/
theorem text?_of_sameKey {v w : Value} (same : v.sameKey w = true) : v.text? = w.text? := by
  cases v <;> cases w <;> simp_all [sameKey, equal, equalAtoms, text?, byteContent?]

theorem sameKey_iff {v w : Value} {name : String} (named : w.text? = some name) :
    v.sameKey w = true ↔ v.text? = some name := by
  refine ⟨fun same => named ▸ text?_of_sameKey same, fun written => ?_⟩
  cases v <;> cases w <;> simp_all [sameKey, equal, equalAtoms, text?]

theorem lookup?_cons (k v key : Value) (rest : List (Value × Value)) :
    lookup? ((k, v) :: rest) key = if k.sameKey key then some v else lookup? rest key := by
  rw [lookup?, List.find?_cons]
  cases k.sameKey key with
  | true => rfl
  | false => rfl

/-- Reading a text key does not depend on the type of the text. -/
theorem lookup?_of_text {entries : List (Value × Value)} {key : Value} {name : String}
    (named : key.text? = some name) : lookup? entries key = lookup? entries (.text name) := by
  have same (v : Value) : v.sameKey key = v.sameKey (.text name) :=
    Bool.eq_iff_iff.2 ((sameKey_iff named).trans (sameKey_iff rfl).symm)
  simp only [lookup?, same]

theorem lookup?_cons_text (k v : Value) (rest : List (Value × Value)) (name : String) :
    lookup? ((k, v) :: rest) (.text name) =
      if k.text? = some name then some v else lookup? rest (.text name) := by
  have written : k.sameKey (.text name) = true ↔ k.text? = some name := sameKey_iff rfl
  simp only [lookup?_cons, written]

/-- Reading a text key after writing a key. -/
theorem lookup?_insertEntry (entries : List (Value × Value)) (key value : Value) (name : String) :
    lookup? (insertEntry entries key value) (.text name) =
      if key.text? = some name then some value else lookup? entries (.text name) := by
  induction entries with
  | nil => exact lookup?_cons_text key value [] name
  | cons e rest ih =>
    obtain ⟨k, v⟩ := e
    rw [insertEntry]
    by_cases same : k.sameKey key = true
    · rw [if_pos same, lookup?_cons_text, lookup?_cons_text, text?_of_sameKey same]
      split
      · rfl
      · rfl
    · rw [if_neg same, lookup?_cons_text, lookup?_cons_text, ih]
      -- An entry under the text stays: were it the key, it would have been written in its place.
      by_cases here : k.text? = some name
      · have other : ¬key.text? = some name := fun there => same ((sameKey_iff there).2 here)
        rw [if_pos here, if_neg other, if_pos here]
      · rw [if_neg here, if_neg here]

/-- Reading a text key after taking a key out. -/
theorem lookup?_eraseEntry (entries : List (Value × Value)) (key : Value) (name : String) :
    lookup? (eraseEntry entries key) (.text name) =
      if key.text? = some name then none else lookup? entries (.text name) := by
  induction entries with
  | nil => exact (ite_self none).symm
  | cons e rest ih =>
    obtain ⟨k, v⟩ := e
    rw [eraseEntry] at ih ⊢
    by_cases same : k.sameKey key = true
    · rw [List.filter_cons_of_neg (by simp [same]), ih, lookup?_cons_text, text?_of_sameKey same]
      split
      · rfl
      · rfl
    · rw [List.filter_cons_of_pos (by simp [same]), lookup?_cons_text, lookup?_cons_text, ih]
      by_cases here : k.text? = some name
      · have other : ¬key.text? = some name := fun there => same ((sameKey_iff there).2 here)
        rw [if_pos here, if_neg other, if_pos here]
      · rw [if_neg here, if_neg here]

end Value

/-- Writing a key that is there leaves the keys as they are. -/
theorem Table.keys_insert {α : Type} {t : Table α} {key : String} (there : t.contains key = true)
    (value : α) : (t.insert key value).keys = t.keys := by
  induction t with
  | nil => cases there
  | cons e rest ih =>
    obtain ⟨k, v⟩ := e
    rw [insert]
    by_cases here : k = key
    · rw [if_pos here]
      rfl
    · have later : contains rest key = true := by
        rwa [contains, get?, if_neg here] at there
      rw [if_neg here]
      exact congrArg (k :: ·) (ih later)

theorem Table.contains_iff {α : Type} {t : Table α} {key : String} :
    t.contains key = true ↔ key ∈ t.keys := by
  induction t with
  | nil => simp [contains, get?, keys]
  | cons e rest ih =>
    obtain ⟨k, v⟩ := e
    by_cases here : k = key
    · simp [contains, get?, keys, here]
    · simpa [contains, get?, keys, here, Ne.symm here] using ih

namespace Store

/-- What has been set under a key in a table. -/
def setting? (s : Store) (table : String) (key : Value) : Option Value :=
  (s.tables.get? table).bind fun data => Value.lookup? data key

/-- A part of a store: what has been set under a name in a table, the default of a name, all that
has been set in a table, or all defaults. -/
inductive Part where
  | setting (table name : String)
  | default (name : String)
  | table (name : String)
  | defaults

/-- Whether two stores agree on a part. -/
def Part.Agrees (s s' : Store) : Part → Prop
  | .setting t n => s.setting? t (.text n) = s'.setting? t (.text n)
  | .default n => Value.lookup? s.defaults (.text n) = Value.lookup? s'.defaults (.text n)
  | .table t => s.tables.get? t = s'.tables.get? t
  | .defaults => s.defaults = s'.defaults

/-- The part that tells what has been set under a key: a key that is no text may be found among all
that has been set. -/
def settingPart (table : String) (key : Value) : Part :=
  match key.text? with
  | some n => .setting table n
  | none => .table table

/-- The part that tells the default of a key. -/
def defaultPart (key : Value) : Part :=
  match key.text? with
  | some n => .default n
  | none => .defaults

/-- The parts that tell the value of a variable: the default only where nothing has been set. -/
def valueParts (s : Store) (table key : Value) : List Part :=
  match table.text? with
  | none => []
  | some t =>
    settingPart t key :: if (s.setting? t key).isSome then [] else [defaultPart key]

/-- The parts of a store that an operation reads. Which tables there are does not change. -/
def reads (s : Store) : Query → List Part
  | .has t k => s.valueParts t k
  | .get t k => s.valueParts t k
  | .delete t k => if s.deletes then (t.text?.map fun t => settingPart t k).toList else []
  | .all t => (t.text?.map fun t => [.table t, .defaults]).getD []
  | .defaultValue k _ => [defaultPart k]
  | _ => []

/-- Two stores with the same tables, in which variables can be taken away or not. -/
structure SameTables (s s' : Store) : Prop where
  tables : s.tables.keys = s'.tables.keys
  deletes : s.deletes = s'.deletes

variable {s s' : Store} {p : Part}

theorem Part.Agrees.refl (s : Store) (p : Part) : p.Agrees s s := by
  cases p <;> rfl

theorem Part.Agrees.symm (agrees : p.Agrees s s') : p.Agrees s' s := by
  cases p <;> exact Eq.symm agrees

theorem Part.Agrees.trans {s'' : Store} (first : p.Agrees s s') (second : p.Agrees s' s'') :
    p.Agrees s s'' := by
  cases p <;> exact Eq.trans first second

theorem setting?_of_get? {t : String} {data : List (Value × Value)}
    (there : s.tables.get? t = some data) (key : Value) :
    s.setting? t key = Value.lookup? data key := by
  rw [setting?, there]
  rfl

theorem setting?_congr {t : String} {key : Value} (agrees : (settingPart t key).Agrees s s') :
    s.setting? t key = s'.setting? t key := by
  unfold settingPart at agrees
  cases named : key.text? with
  | none =>
    rw [named] at agrees
    exact congrArg (Option.bind · _) agrees
  | some n =>
    rw [named] at agrees
    simp only [Store.setting?, Value.lookup?_of_text named]
    exact agrees

theorem default?_congr {key : Value} (agrees : (defaultPart key).Agrees s s') :
    Value.lookup? s.defaults key = Value.lookup? s'.defaults key := by
  unfold defaultPart at agrees
  cases named : key.text? with
  | none =>
    rw [named] at agrees
    exact congrArg (Value.lookup? · key) agrees
  | some n =>
    rw [named] at agrees
    rw [Value.lookup?_of_text named, Value.lookup?_of_text named]
    exact agrees

namespace SameTables

theorem refl (s : Store) : SameTables s s := ⟨rfl, rfl⟩

theorem symm (same : SameTables s s') : SameTables s' s := ⟨same.tables.symm, same.deletes.symm⟩

theorem trans {s'' : Store} (same : SameTables s s') (next : SameTables s' s'') :
    SameTables s s'' :=
  ⟨same.tables.trans next.tables, same.deletes.trans next.deletes⟩

theorem declared (same : SameTables s s') (t : String) :
    (s.tables.get? t).isSome = (s'.tables.get? t).isSome := by
  have there : s.tables.contains t = true ↔ s'.tables.contains t = true := by
    rw [Table.contains_iff, Table.contains_iff, same.tables]
  exact Bool.eq_iff_iff.2 there

theorem hasTable (same : SameTables s s') (table : Value) :
    s.hasTable table = s'.hasTable table := by
  unfold Store.hasTable tableOf?
  cases table.text? with
  | none => rfl
  | some t => exact same.declared t

theorem check (same : SameTables s s') (q : Query) : s.check q = s'.check q := by
  cases q <;> simp only [Store.check, checkNames, same.hasTable, same.deletes]

end SameTables

/-- Writing in a declared table leaves the tables as they are. -/
theorem sameTables_insert {name : String} {data : List (Value × Value)}
    (there : s.tables.get? name = some data) (data' : List (Value × Value)) :
    SameTables s { s with tables := s.tables.insert name data' } :=
  ⟨(Table.keys_insert (congrArg Option.isSome there) data').symm, rfl⟩

/-- No operation declares tables. -/
theorem sameTables_perform (s : Store) (q : Query) : SameTables s (s.perform q).2 := by
  unfold perform
  split
  · exact .refl s
  · cases q with
    | set t k v =>
      show SameTables s (s.set t k v)
      unfold set
      split
      · next name data named found =>
        rw [tableOf?, named] at found
        exact sameTables_insert found _
      · exact .refl s
    | delete t k =>
      show SameTables s (s.delete t k).2
      unfold delete
      split
      · next name data named found =>
        rw [tableOf?, named] at found
        split
        · exact sameTables_insert found _
        · exact .refl s
      · exact .refl s
    | _ => exact ⟨rfl, rfl⟩

theorem setting?_insert (s : Store) (name t : String) (data : List (Value × Value)) (key : Value) :
    setting? { s with tables := s.tables.insert name data } t key =
      if name = t then Value.lookup? data key else s.setting? t key := by
  rw [setting?, Table.get?_insert]
  split
  · rfl
  · rfl

/-- Two stores still agree on what they agreed on, after the same has been done, name by name, to
what had been set in a table. -/
theorem Part.Agrees.insert {f : List (Value × Value) → List (Value × Value)} {name : String}
    {data data' : List (Value × Value)} (there : s.tables.get? name = some data)
    (there' : s'.tables.get? name = some data')
    (namewise : ∀ n, Value.lookup? data (.text n) = Value.lookup? data' (.text n) →
      Value.lookup? (f data) (.text n) = Value.lookup? (f data') (.text n))
    (agrees : p.Agrees s s') :
    p.Agrees { s with tables := s.tables.insert name (f data) }
      { s' with tables := s'.tables.insert name (f data') } := by
  cases p with
  | setting t n =>
    show setting? _ t _ = setting? _ t _
    rw [setting?_insert, setting?_insert]
    by_cases here : name = t
    · subst here
      have before : s.setting? name (.text n) = s'.setting? name (.text n) := agrees
      rw [setting?_of_get? there, setting?_of_get? there'] at before
      rw [if_pos rfl, if_pos rfl]
      exact namewise n before
    · rw [if_neg here, if_neg here]
      exact agrees
  | table t =>
    show Table.get? _ t = Table.get? _ t
    rw [Table.get?_insert, Table.get?_insert]
    by_cases here : name = t
    · subst here
      have before : s.tables.get? name = s'.tables.get? name := agrees
      obtain rfl := Option.some.inj (there.symm.trans (before.trans there'))
      rw [if_pos rfl, if_pos rfl]
    · rw [if_neg here, if_neg here]
      exact agrees
  | default n => exact agrees
  | defaults => exact agrees

/-- The table of a name, in two stores with the same tables. -/
theorem tableOf?_cases (same : SameTables s s') (table : Value) :
    (s.tableOf? table = none ∧ s'.tableOf? table = none) ∨
      ∃ name data data', table.text? = some name ∧ s.tables.get? name = some data ∧
        s'.tables.get? name = some data' := by
  unfold tableOf?
  cases table.text? with
  | none => exact .inl ⟨rfl, rfl⟩
  | some name =>
    have declared := same.declared name
    cases found : s.tables.get? name with
    | none =>
      rw [found] at declared
      exact .inl ⟨found, Option.isNone_iff_eq_none.1 (by simpa using declared.symm)⟩
    | some data =>
      rw [found] at declared
      obtain ⟨data', found'⟩ := Option.isSome_iff_exists.1 declared.symm
      exact .inr ⟨name, data, data', rfl, found, found'⟩

theorem tableOf?_of_get? {table : Value} {name : String} {data : List (Value × Value)}
    (named : table.text? = some name) (there : s.tables.get? name = some data) :
    s.tableOf? table = some data := by
  rw [tableOf?, named]
  exact there

theorem variable_congr (same : SameTables s s') {table key : Value}
    (agree : ∀ p ∈ s.valueParts table key, p.Agrees s s') :
    s.get table key = s'.get table key ∧ s.has table key = s'.has table key := by
  obtain ⟨none, none'⟩ | ⟨name, data, data', named, there, there'⟩ := tableOf?_cases same table
  · simp [get, has, none, none']
  · rw [valueParts, named] at agree
    have set : s.setting? name key = s'.setting? name key :=
      setting?_congr (agree _ List.mem_cons_self)
    simp only [setting?_of_get? there, setting?_of_get? there'] at set agree
    simp only [get, has, tableOf?_of_get? named there, tableOf?_of_get? named there', ← set]
    cases given : Value.lookup? data key with
    | some v => exact ⟨rfl, rfl⟩
    | none =>
      -- Nothing hides the default, so that it is read as well.
      rw [given] at agree
      have default : Value.lookup? s.defaults key = Value.lookup? s'.defaults key :=
        default?_congr (agree _ (List.mem_cons_of_mem _ (List.mem_singleton_self _)))
      rw [default]
      exact ⟨rfl, rfl⟩

/-- What has been set under a key is taken away from both of two stores or from neither. -/
theorem delete_cases (same : SameTables s s') {table key : Value}
    (agree : ∀ p ∈ s.reads (.delete table key), p.Agrees s s') :
    (s.delete table key = (false, s) ∧ s'.delete table key = (false, s')) ∨
      ∃ name data data', s.tables.get? name = some data ∧ s'.tables.get? name = some data' ∧
        s.delete table key =
          (true, { s with tables := s.tables.insert name (Value.eraseEntry data key) }) ∧
        s'.delete table key =
          (true, { s' with tables := s'.tables.insert name (Value.eraseEntry data' key) }) := by
  obtain ⟨none, none'⟩ | ⟨name, data, data', named, there, there'⟩ := tableOf?_cases same table
  · left
    cases named : table.text? <;> simp [delete, named, none, none']
  · have table? := tableOf?_of_get? named there
    have table?' := tableOf?_of_get? named there'
    cases deletes : s.deletes with
    | false => simp [delete, named, table?, table?', deletes, same.deletes ▸ deletes]
    | true =>
      rw [reads, deletes, named] at agree
      have set : s.setting? name key = s'.setting? name key :=
        setting?_congr (agree _ (by simp))
      rw [setting?_of_get? there, setting?_of_get? there'] at set
      cases given : (Value.lookup? data key).isSome with
      | false =>
        simp [delete, named, table?, table?', deletes, same.deletes ▸ deletes, given, ← set]
      | true =>
        right
        refine ⟨name, data, data', there, there', ?_, ?_⟩
        · simp [delete, named, table?, deletes, given]
        · simp [delete, named, table?', same.deletes ▸ deletes, ← set, given]

/-- **The answer to an operation depends only on what it reads.** -/
theorem perform_congr (same : SameTables s s') {q : Query}
    (agree : ∀ p ∈ s.reads q, p.Agrees s s') :
    (s.perform q).1 = (s'.perform q).1 := by
  have answered : (s.apply q).1 = (s'.apply q).1 := by
    cases q with
    | tables => simp [apply, tableNames, same.tables]
    | defaultTable => simp [apply, defaultTable, tableNames, same.tables]
    | hasTable t => simp [apply, same.hasTable]
    | has t k => simp [apply, (variable_congr same agree).2]
    | get t k => simp [apply, (variable_congr same agree).1]
    | set t k v => rfl
    | delete t k =>
      obtain ⟨kept, kept'⟩ | ⟨_, _, _, _, _, taken, taken'⟩ := delete_cases same agree
      · simp [apply, kept, kept']
      · simp [apply, taken, taken']
    | all t =>
      obtain ⟨none, none'⟩ | ⟨name, data, data', named, there, there'⟩ := tableOf?_cases same t
      · simp [apply, all, none, none']
      · rw [reads, named] at agree
        have table : s.tables.get? name = s'.tables.get? name :=
          agree (.table name) List.mem_cons_self
        have defaults : s.defaults = s'.defaults := agree .defaults (by simp)
        simp [apply, all, tableOf?, named, table, defaults]
    | defaultValue k t =>
      have default : Value.lookup? s.defaults k = Value.lookup? s'.defaults k :=
        default?_congr (agree _ List.mem_cons_self)
      simp [apply, defaultValue, same.hasTable, default]
    | declare values => rfl
  unfold perform
  rw [← same.check]
  cases s.check q with
  | error e => rfl
  | ok _ => exact congrArg Except.ok answered

theorem lookup?_insertEntries {entries entries' : List (Value × Value)} {name : String}
    (before : Value.lookup? entries (.text name) = Value.lookup? entries' (.text name))
    (values : List (Value × Value)) :
    Value.lookup? (values.foldl (fun t e => Value.insertEntry t e.1 e.2) entries) (.text name) =
      Value.lookup? (values.foldl (fun t e => Value.insertEntry t e.1 e.2) entries')
        (.text name) := by
  induction values generalizing entries entries' with
  | nil => exact before
  | cons e rest ih =>
    refine ih ?_
    rw [Value.lookup?_insertEntry, Value.lookup?_insertEntry, before]

/-- Two stores still agree on what they agreed on, after the same defaults have been declared. -/
theorem Part.Agrees.declare (values : List (Value × Value)) (agrees : p.Agrees s s') :
    p.Agrees (s.declare values) (s'.declare values) := by
  cases p with
  | setting t n => exact agrees
  | table t => exact agrees
  | default n => exact lookup?_insertEntries agrees values
  | defaults =>
    have before : s.defaults = s'.defaults := agrees
    show Store.defaults _ = Store.defaults _
    rw [Store.declare, before]
    rfl

/-- **The same operation on both keeps two stores in agreement.** -/
theorem agrees_perform (same : SameTables s s') {q : Query} (agree : ∀ p ∈ s.reads q, p.Agrees s s')
    (agrees : p.Agrees s s') : p.Agrees (s.perform q).2 (s'.perform q).2 := by
  have after : p.Agrees (s.apply q).2 (s'.apply q).2 := by
    cases q with
    | set t k v =>
      show p.Agrees (s.set t k v) (s'.set t k v)
      obtain ⟨none, none'⟩ | ⟨name, data, data', named, there, there'⟩ := tableOf?_cases same t
      · cases named : t.text? <;> simpa [set, named, none, none'] using agrees
      · simp only [set, named, tableOf?_of_get? named there, tableOf?_of_get? named there']
        refine agrees.insert (f := (Value.insertEntry · k v)) there there' fun n before => ?_
        rw [Value.lookup?_insertEntry, Value.lookup?_insertEntry, before]
    | delete t k =>
      show p.Agrees (s.delete t k).2 (s'.delete t k).2
      obtain ⟨kept, kept'⟩ | ⟨_, _, _, there, there', taken, taken'⟩ := delete_cases same agree
      · rw [kept, kept']
        exact agrees
      · rw [taken, taken']
        refine agrees.insert (f := (Value.eraseEntry · k)) there there' fun n before => ?_
        rw [Value.lookup?_eraseEntry, Value.lookup?_eraseEntry, before]
    | declare values => exact agrees.declare values
    | _ => exact agrees
  unfold perform
  rw [← same.check]
  cases s.check q with
  | error e => exact agrees
  | ok _ => exact after

end Store

end CommandScript
