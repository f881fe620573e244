import Mathlib.Data.List.Induction
import CommandScript.Proofs.Store

/-!
# The variables of a store

A variable of a declared table is what has been set under its name in that table, or else the
default of the name. Setting it changes it and no other variable. A fresh store holds the defaults
in each of its tables.

## Main definitions

- `CommandScript.Store.reading?` — the value of a variable

## Main results

- `CommandScript.Store.perform_has`, `perform_get`, `perform_set` — what operations do to variables
- `CommandScript.Store.reading?_set` — reading after setting
- `CommandScript.Store.reading?_ofTables` — the variables of a fresh store
-/

namespace CommandScript

namespace Table

variable {α : Type}

theorem get?_insertAll_const (t : Table α) (keys : List String) (value : α) (key : String) :
    (t.insertAll (keys.map (·, value))).get? key =
      if key ∈ keys then some value else t.get? key := by
  induction keys generalizing t with
  | nil => rfl
  | cons k ks ih =>
    refine (ih (t.insert k value)).trans ?_
    rw [get?_insert]
    grind

/-- The first key that is written in an empty table stays the first one. -/
theorem head?_keys_insert (t : Table α) (key : String) (value : α) :
    (t.insert key value).keys.head? = t.keys.head?.or (some key) := by
  cases t with
  | nil => rfl
  | cons e rest =>
    obtain ⟨k, v⟩ := e
    rw [insert]
    split <;> rfl

theorem head?_keys_insertAll (t entries : Table α) :
    (t.insertAll entries).keys.head? = t.keys.head?.or entries.keys.head? := by
  induction entries generalizing t with
  | nil => exact (Option.or_none).symm
  | cons e rest ih =>
    refine (ih (t.insert e.1 e.2)).trans ?_
    rw [head?_keys_insert, Option.or_assoc]
    rfl

end Table

namespace Store

variable {s : Store} {t n : String} {v : Value}

/-- The value of a variable in a declared table: what has been set, or else the default. -/
def reading? (s : Store) (table name : String) : Option Value :=
  (s.tables.get? table).bind fun data =>
    (Value.lookup? data (.text name)).or (Value.lookup? s.defaults (.text name))

theorem tableOf?_text : s.tableOf? (.text t) = s.tables.get? t := rfl

theorem has_text (s : Store) (t n : String) :
    s.has (.text t) (.text n) = (s.reading? t n).isSome := by
  rw [has, tableOf?_text, reading?]
  cases s.tables.get? t with
  | none => rfl
  | some data => exact Option.isSome_or.symm

theorem get_text (s : Store) (t n : String) :
    s.get (.text t) (.text n) = (s.reading? t n).getD .null := by
  rw [get, tableOf?_text, reading?]
  cases s.tables.get? t with
  | none => rfl
  | some data => rfl

/-- **Setting a variable changes it and no other one.** -/
theorem reading?_set (declared : s.tables.contains t = true) (n : String) (v : Value)
    (t' n' : String) :
    (s.set (.text t) (.text n) v).reading? t' n' =
      if t = t' ∧ n = n' then some v else s.reading? t' n' := by
  obtain ⟨data, there⟩ := Option.isSome_iff_exists.1 declared
  have written : s.set (.text t) (.text n) v =
      { s with tables := s.tables.insert t (Value.insertEntry data (.text n) v) } := by
    have found : s.tableOf? (.text t) = some data := there
    rw [set, found]
    rfl
  rw [written, reading?, reading?, Table.get?_insert]
  by_cases same : t = t'
  · subst same
    have named : (Value.text n).text? = some n' ↔ n = n' := Option.some_inj
    rw [if_pos rfl, there, Option.bind_some, Option.bind_some, Value.lookup?_insertEntry]
    by_cases here : n = n'
    · rw [if_pos (named.2 here), if_pos ⟨rfl, here⟩]
      rfl
    · rw [if_neg (mt named.1 here), if_neg fun both => here both.2]
  · rw [if_neg same, if_neg fun both => same both.1]

/-! ### Operations on variables -/

theorem perform_defaultTable :
    s.perform .defaultTable = (.ok ((s.defaultTable.map .text).getD .null), s) := rfl

theorem perform_hasTable :
    s.perform (.hasTable (.text t)) = (.ok (.bool (s.tables.contains t)), s) := rfl

theorem checkNames_text (s : Store) (t n : String) : s.checkNames (.text t) (.text n) = .ok () := by
  show (if s.hasTable (.text t) then Except.ok () else .ok ()) = _
  exact ite_self _

theorem perform_has :
    s.perform (.has (.text t) (.text n)) = (.ok (.bool (s.reading? t n).isSome), s) := by
  rw [perform, check, checkNames_text, ← has_text]
  rfl

theorem perform_get :
    s.perform (.get (.text t) (.text n)) = (.ok ((s.reading? t n).getD .null), s) := by
  rw [perform, check, checkNames_text, ← get_text]
  rfl

theorem perform_set :
    s.perform (.set (.text t) (.text n) v) = (.ok .null, s.set (.text t) (.text n) v) := by
  rw [perform, check, checkNames_text]
  rfl

theorem keys_set (s : Store) (t n : String) (v : Value) :
    (s.set (.text t) (.text n) v).tables.keys = s.tables.keys := by
  have same := (sameTables_perform s (.set (.text t) (.text n) v)).tables
  rw [perform_set] at same
  exact same.symm

/-! ### Fresh stores -/

variable {names : List String} {defaults : List (Value × Value)}

theorem contains_ofTables :
    (ofTables names defaults).tables.contains t = true ↔ t ∈ names := by
  rw [Table.contains, ofTables, Table.ofList, Table.get?_insertAll_const]
  split <;> simp_all [Table.get?]

theorem defaultTable_ofTables : (ofTables names defaults).defaultTable = names.head? := by
  have first := Table.head?_keys_insertAll [] (names.map (·, ([] : List (Value × Value))))
  refine first.trans ?_
  cases names <;> rfl

/-- The variables of a fresh store are the defaults, in each declared table. -/
theorem reading?_ofTables :
    (ofTables names defaults).reading? t n =
      if t ∈ names then Value.lookup? (Value.ofEntries defaults) (.text n) else none := by
  rw [reading?, ofTables, Table.ofList, Table.get?_insertAll_const]
  split
  · rfl
  · rfl

/-- Among texts that are written one after the other, the last one under a key is read. -/
theorem lookup?_ofEntries_texts (entries : List (String × String)) (n : String) :
    Value.lookup? (Value.ofEntries (entries.map fun e => (.text e.1, .text e.2))) (.text n) =
      (entries.reverse.lookup n).map .text := by
  induction entries using List.reverseRecOn with
  | nil => rfl
  | append_singleton before e ih =>
    rw [Value.ofEntries] at ih ⊢
    rw [List.map_append, List.foldl_append, List.reverse_append]
    refine (Value.lookup?_insertEntry _ _ _ n).trans ?_
    rw [ih, List.reverse_singleton, List.singleton_append, List.lookup_cons]
    have named : (Value.text e.1).text? = some n ↔ n = e.1 := Option.some_inj.trans eq_comm
    by_cases here : n = e.1
    · rw [if_pos (named.2 here), beq_iff_eq.2 here]
      rfl
    · rw [if_neg (mt named.1 here), beq_false_of_ne here]

end Store

end CommandScript
