import CommandScript.Proofs.Store.Variables

/-!
# Histories of a store

Whatever is set, taken away and declared in a store, in any order and under any names, all ways of
asking it agree. A variable of a declared table is what was last set and not taken away since, or
else the default that was declared last; a table that was not declared stays away and holds nothing.

Two layers are kept apart for this: what is set in a table, which only operations on that variable
change, and the defaults, which only declarations change. In both of them a text stands once among
the keys, so that it does not matter where it is looked for.

## Main definitions

- `CommandScript.Value.KeyedOnce` — entries in which no text is a key twice
- `CommandScript.Store.afterAll` — a store after operations
- `CommandScript.Store.lastSet?` — what operations leave set in a variable
- `CommandScript.Store.Tidy` — what every operation keeps
- `CommandScript.Store.Shows` — what a store tells about a variable

## Main results

- `CommandScript.Store.setting?_afterAll`, `default?_afterAll` — the two layers after a history
- `CommandScript.Store.Tidy.shows` — all ways of asking go back to the two layers
- `CommandScript.Store.views_agree` — they agree after every history
-/

namespace CommandScript

namespace Value

variable {entries values : List (Value × Value)} {key v : Value} {n : String}

/-- What stands last under a text, among entries that may have it more than once. -/
def last? (entries : List (Value × Value)) (n : String) : Option Value :=
  entries.reverse.findSome? fun e => if e.1.text? = some n then some e.2 else none

theorem last?_append (entries values : List (Value × Value)) (n : String) :
    last? (entries ++ values) n = (last? values n).or (last? entries n) := by
  rw [last?, List.reverse_append, List.findSome?_append]
  rfl

theorem last?_cons (e : Value × Value) (rest : List (Value × Value)) (n : String) :
    last? (e :: rest) n = (last? rest n).or (if e.1.text? = some n then some e.2 else none) := by
  rw [← List.singleton_append, last?_append]
  congr 1
  simp [last?]

/-- Of entries that are written one after the other, the last one under a text is read. -/
theorem lookup?_insertEntries (entries values : List (Value × Value)) (n : String) :
    lookup? (values.foldl (fun t e => insertEntry t e.1 e.2) entries) (.text n) =
      (last? values n).or (lookup? entries (.text n)) := by
  induction values generalizing entries with
  | nil => rfl
  | cons e rest ih =>
    refine (ih (insertEntry entries e.1 e.2)).trans ?_
    rw [lookup?_insertEntry, last?_cons, Option.or_assoc]
    split
    · rfl
    · rw [Option.none_or]

/-- Entries in which no text is a key twice. -/
def KeyedOnce (entries : List (Value × Value)) : Prop := (entries.filterMap (·.1.text?)).Nodup

theorem keyedOnce_nil : KeyedOnce [] := List.nodup_nil

theorem lookup?_eq_none_of_not_mem (absent : n ∉ entries.filterMap (·.1.text?)) :
    lookup? entries (.text n) = none := by
  induction entries with
  | nil => rfl
  | cons e rest ih =>
    obtain ⟨k, w⟩ := e
    have both : k.text? ≠ some n ∧ n ∉ rest.filterMap (·.1.text?) := by
      rw [List.mem_filterMap] at absent ⊢
      exact ⟨fun here => absent ⟨(k, w), List.mem_cons_self, here⟩,
        fun ⟨e, mem, here⟩ => absent ⟨e, List.mem_cons_of_mem _ mem, here⟩⟩
    rw [lookup?_cons_text, if_neg both.1]
    exact ih both.2

theorem KeyedOnce.of_cons {k w : Value} (once : KeyedOnce ((k, w) :: entries)) :
    KeyedOnce entries ∧ ∀ n, k.text? = some n → lookup? entries (.text n) = none := by
  rw [KeyedOnce, List.filterMap_cons] at once
  cases named : k.text? with
  | none =>
    simp only [named] at once
    exact ⟨once, nofun⟩
  | some s =>
    simp only [named, List.nodup_cons] at once
    refine ⟨once.2, ?_⟩
    rintro n ⟨⟩
    exact lookup?_eq_none_of_not_mem once.1

/-- Where no text is a key twice, it is read wherever it stands. -/
theorem KeyedOnce.lookup?_eq_some_iff (once : KeyedOnce entries) :
    lookup? entries (.text n) = some v ↔ ∃ k, (k, v) ∈ entries ∧ k.text? = some n := by
  induction entries with
  | nil => exact ⟨nofun, fun ⟨_, mem, _⟩ => nomatch mem⟩
  | cons e rest ih =>
    obtain ⟨k, w⟩ := e
    obtain ⟨later, single⟩ := once.of_cons
    rw [lookup?_cons_text]
    by_cases here : k.text? = some n
    · rw [if_pos here]
      constructor
      · rintro ⟨⟩
        exact ⟨k, List.mem_cons_self, here⟩
      · rintro ⟨k', mem, named⟩
        obtain same | mem := List.mem_cons.1 mem
        · cases same
          rfl
        · have found := (ih later).2 ⟨k', mem, named⟩
          cases (single n here).symm.trans found
    · rw [if_neg here, ih later]
      constructor
      · rintro ⟨k', mem, named⟩
        exact ⟨k', List.mem_cons_of_mem _ mem, named⟩
      · rintro ⟨k', mem, named⟩
        obtain same | mem := List.mem_cons.1 mem
        · cases same
          exact absurd named here
        · exact ⟨k', mem, named⟩

theorem KeyedOnce.last?_eq (once : KeyedOnce entries) :
    last? entries n = lookup? entries (.text n) := by
  induction entries with
  | nil => rfl
  | cons e rest ih =>
    obtain ⟨k, w⟩ := e
    obtain ⟨later, single⟩ := once.of_cons
    rw [last?_cons, lookup?_cons_text, ih later]
    by_cases here : k.text? = some n
    · rw [if_pos here, if_pos here, single n here]
      rfl
    · rw [if_neg here, if_neg here, Option.or_none]

/-- Writing an entry leaves the texts among the keys as they are, or adds that of a new key. -/
theorem keyTexts_insertEntry (entries : List (Value × Value)) (key v : Value) :
    (insertEntry entries key v).filterMap (·.1.text?) = entries.filterMap (·.1.text?) ∨
      (insertEntry entries key v).filterMap (·.1.text?) =
        entries.filterMap (·.1.text?) ++ key.text?.toList ∧
      ∀ n, key.text? = some n → n ∉ entries.filterMap (·.1.text?) := by
  induction entries with
  | nil =>
    right
    cases named : key.text? <;> simp [insertEntry, named]
  | cons e rest ih =>
    obtain ⟨k, w⟩ := e
    rw [insertEntry]
    by_cases same : k.sameKey key = true
    · rw [if_pos same]
      exact .inl rfl
    · rw [if_neg same]
      -- A key that is another one is no text, or another text.
      have other (n : String) (named : key.text? = some n) : k.text? ≠ some n :=
        mt (sameKey_iff named).2 same
      obtain kept | ⟨added, new⟩ := ih
      · left
        simp only [List.filterMap_cons, kept]
      · right
        cases first : k.text? with
        | none =>
          simp only [List.filterMap_cons, first]
          exact ⟨added, new⟩
        | some s =>
          simp only [List.filterMap_cons, first]
          refine ⟨congrArg (s :: ·) added, fun n named mem => ?_⟩
          rw [List.mem_cons] at mem
          obtain rfl | mem := mem
          · exact other n named first
          · exact new n named mem

theorem KeyedOnce.insertEntry (once : KeyedOnce entries) (key v : Value) :
    KeyedOnce (insertEntry entries key v) := by
  obtain kept | ⟨added, new⟩ := keyTexts_insertEntry entries key v
  · rw [KeyedOnce, kept]
    exact once
  · rw [KeyedOnce, added, List.nodup_append]
    refine ⟨once, ?_, ?_⟩
    · cases key.text? <;> simp
    · rintro n mem n' mem' rfl
      exact new n (Option.mem_toList.1 mem') mem

theorem KeyedOnce.eraseEntry (once : KeyedOnce entries) (key : Value) :
    KeyedOnce (eraseEntry entries key) :=
  once.sublist (List.filter_sublist.filterMap _)

theorem KeyedOnce.insertEntries (once : KeyedOnce entries) (values : List (Value × Value)) :
    KeyedOnce (values.foldl (fun t e => Value.insertEntry t e.1 e.2) entries) := by
  induction values generalizing entries with
  | nil => exact once
  | cons e rest ih => exact ih (once.insertEntry e.1 e.2)

end Value

namespace Store

open Value (KeyedOnce lookup? last?)

variable {s : Store} {q : Query} {qs : List Query} {table key v : Value} {t n : String}

/-- The store after operations, one after the other, whatever was answered to them. -/
def afterAll (s : Store) (qs : List Query) : Store := qs.foldl (fun s q => (s.perform q).2) s

theorem afterAll_append (s : Store) (qs : List Query) (q : Query) :
    s.afterAll (qs ++ [q]) = ((s.afterAll qs).perform q).2 := by
  rw [afterAll, List.foldl_append]
  rfl

/-- What an operation writes to a variable, if it does: a value where it sets the variable, and
nothing where it takes it away. -/
def Query.written? (t n : String) : Query → Option (Option Value)
  | .set table key v => if table.text? = some t ∧ key.text? = some n then some (some v) else none
  | .delete table key => if table.text? = some t ∧ key.text? = some n then some none else none
  | _ => none

/-- The defaults that an operation declares. -/
def Query.declared : Query → List (Value × Value)
  | .declare values => values
  | _ => []

/-- What operations leave set in a variable: what the last of them that writes to it writes. -/
def lastSet? (qs : List Query) (t n : String) : Option Value :=
  (qs.reverse.findSome? (·.written? t n)).join

theorem lastSet?_append (qs : List Query) (q : Query) (t n : String) :
    lastSet? (qs ++ [q]) t n = (q.written? t n).getD (lastSet? qs t n) := by
  rw [lastSet?, List.reverse_append, List.reverse_singleton, List.singleton_append,
    List.findSome?_cons]
  cases q.written? t n with
  | none => rfl
  | some w => rfl

/-! ### The two layers -/

/-- What every operation keeps: no text is a key twice, and variables can be taken away. -/
structure Tidy (s : Store) : Prop where
  deletes : s.deletes = true
  defaults : KeyedOnce s.defaults
  tables : ∀ t data, s.tables.get? t = some data → KeyedOnce data

theorem tidy_ofTables (names : List String) (defaults : List (Value × Value)) :
    (ofTables names defaults).Tidy where
  deletes := rfl
  defaults := Value.keyedOnce_nil.insertEntries defaults
  tables := by
    intro t data there
    rw [ofTables, Table.ofList, Table.get?_insertAll_const] at there
    split at there
    · cases there
      exact Value.keyedOnce_nil
    · cases there

theorem Tidy.insert {data : List (Value × Value)} (tidy : s.Tidy) (name : String)
    (once : KeyedOnce data) : Tidy { s with tables := s.tables.insert name data } where
  deletes := tidy.deletes
  defaults := tidy.defaults
  tables := by
    intro t data' there
    rw [Table.get?_insert] at there
    split at there
    · cases there
      exact once
    · exact tidy.tables t data' there

theorem get?_of_tableOf? {data : List (Value × Value)} (named : table.text? = some t)
    (there : s.tableOf? table = some data) : s.tables.get? t = some data := by
  rw [tableOf?, named] at there
  exact there

theorem Tidy.perform (tidy : s.Tidy) (q : Query) : (s.perform q).2.Tidy := by
  unfold Store.perform
  split
  · exact tidy
  · cases q with
    | set table key v =>
      show (s.set table key v).Tidy
      unfold set
      split
      · next name data named there =>
        have once := tidy.tables name data (get?_of_tableOf? named there)
        exact tidy.insert name (once.insertEntry key v)
      · exact tidy
    | delete table key =>
      show (s.delete table key).2.Tidy
      unfold delete
      split
      · next name data named there =>
        have once := tidy.tables name data (get?_of_tableOf? named there)
        split
        · exact tidy.insert name (once.eraseEntry key)
        · exact tidy
      · exact tidy
    | declare values => exact ⟨tidy.deletes, tidy.defaults.insertEntries values, tidy.tables⟩
    | _ => exact tidy

theorem contains_perform (s : Store) (q : Query) (t : String) :
    (s.perform q).2.tables.contains t = s.tables.contains t :=
  ((sameTables_perform s q).declared t).symm

theorem checkKey_of_text? {v : Value} (named : v.text? = some n) : v.checkKey = .ok () := by
  cases v <;> first | rfl | cases named

theorem checkNames_of_text? (s : Store) (named : table.text? = some t)
    (called : key.text? = some n) : s.checkNames table key = .ok () := by
  rw [checkNames, checkKey_of_text? named]
  show (if s.hasTable table then key.checkKey else _) = _
  rw [checkKey_of_text? called]
  exact ite_self _

/-- An operation that is refused writes to no variable. -/
theorem written?_of_check_eq_error {e : UnfitKey} (refused : s.check q = .error e) :
    q.written? t n = none := by
  cases q with
  | set table key v =>
    refine if_neg fun ⟨named, called⟩ => ?_
    cases (checkNames_of_text? s named called).symm.trans refused
  | delete table key =>
    refine if_neg fun ⟨named, called⟩ => ?_
    rw [check, checkNames_of_text? s named called, ite_self] at refused
    cases refused
  | _ => rfl

theorem setting?_set (declared : s.tables.contains t = true) (table key v : Value) (n : String) :
    (s.set table key v).setting? t (.text n) =
      ((Query.set table key v).written? t n).getD (s.setting? t (.text n)) := by
  rw [Query.written?, set]
  by_cases named : table.text? = some t
  · obtain ⟨data, there⟩ := Option.isSome_iff_exists.1 declared
    simp only [named, tableOf?_of_get? named there, true_and]
    rw [setting?_insert, if_pos rfl, Value.lookup?_insertEntry, setting?_of_get? there]
    split
    · rfl
    · rfl
  · rw [if_neg fun both => named both.1]
    split
    · next name data called there =>
      have other : name ≠ t := fun same => named (same ▸ called)
      rw [setting?_insert, if_neg other]
      rfl
    · rfl

theorem setting?_delete (deletes : s.deletes = true) (declared : s.tables.contains t = true)
    (table key : Value) (n : String) :
    (s.delete table key).2.setting? t (.text n) =
      ((Query.delete table key).written? t n).getD (s.setting? t (.text n)) := by
  rw [Query.written?, delete]
  by_cases named : table.text? = some t
  · obtain ⟨data, there⟩ := Option.isSome_iff_exists.1 declared
    simp only [named, tableOf?_of_get? named there, deletes, Bool.true_and, true_and]
    by_cases called : key.text? = some n
    · rw [if_pos called, Value.lookup?_of_text called]
      split
      · refine (setting?_insert s t t _ _).trans ?_
        rw [if_pos rfl, Value.lookup?_eraseEntry, if_pos called]
        rfl
      · next nothing =>
        refine (setting?_of_get? there _).trans ?_
        simpa using nothing
    · rw [if_neg called]
      split
      · refine (setting?_insert s t t _ _).trans ?_
        rw [if_pos rfl, Value.lookup?_eraseEntry, if_neg called, setting?_of_get? there]
        rfl
      · rfl
  · rw [if_neg fun both => named both.1]
    split
    · next name data called there =>
      have other : name ≠ t := fun same => named (same ▸ called)
      split
      · rw [setting?_insert, if_neg other]
        rfl
      · rfl
    · rfl

/-- What is set in a variable changes only where an operation writes to it. -/
theorem setting?_perform (deletes : s.deletes = true) (declared : s.tables.contains t = true)
    (q : Query) (n : String) :
    (s.perform q).2.setting? t (.text n) =
      (q.written? t n).getD (s.setting? t (.text n)) := by
  unfold perform
  cases checked : s.check q with
  | error e => rw [written?_of_check_eq_error checked]; rfl
  | ok _ =>
    cases q with
    | set table key v => exact setting?_set declared table key v n
    | delete table key => exact setting?_delete deletes declared table key n
    | _ => rfl

/-- Defaults change only where an operation declares them. -/
theorem default?_perform (s : Store) (q : Query) (n : String) :
    lookup? (s.perform q).2.defaults (.text n) =
      (last? q.declared n).or (lookup? s.defaults (.text n)) := by
  cases q with
  | declare values => exact Value.lookup?_insertEntries s.defaults values n
  | set table key v =>
    unfold perform
    split
    · rfl
    · show lookup? (s.set table key v).defaults _ = _
      unfold set
      split <;> rfl
  | delete table key =>
    unfold perform
    split
    · rfl
    · show lookup? (s.delete table key).2.defaults _ = _
      unfold delete
      split
      · split <;> rfl
      · rfl
  | _ =>
    unfold perform
    split <;> rfl

/-! ### Runs -/

theorem Tidy.afterAll (tidy : s.Tidy) (qs : List Query) : (s.afterAll qs).Tidy := by
  induction qs using List.reverseRecOn with
  | nil => exact tidy
  | append_singleton qs q ih =>
    rw [afterAll_append]
    exact ih.perform q

/-- No table is declared, and none goes away. -/
theorem sameTables_afterAll (s : Store) (qs : List Query) : SameTables s (s.afterAll qs) := by
  induction qs using List.reverseRecOn with
  | nil => exact .refl s
  | append_singleton qs q ih =>
    rw [afterAll_append]
    exact ih.trans (sameTables_perform _ q)

/-- **What is set in a variable** after operations is what the last one that writes to it writes. -/
theorem setting?_afterAll (tidy : s.Tidy) (declared : s.tables.contains t = true)
    (unset : s.setting? t (.text n) = none) (qs : List Query) :
    (s.afterAll qs).setting? t (.text n) = lastSet? qs t n := by
  induction qs using List.reverseRecOn with
  | nil => exact unset
  | append_singleton qs q ih =>
    have still : (s.afterAll qs).tables.contains t = true :=
      ((sameTables_afterAll s qs).declared t).symm.trans declared
    rw [afterAll_append, setting?_perform (tidy.afterAll qs).deletes still, ih, lastSet?_append]

/-- **The default of a variable** after operations is the one that was declared last. -/
theorem default?_afterAll (s : Store) (qs : List Query) (n : String) :
    lookup? (s.afterAll qs).defaults (.text n) =
      (last? (qs.flatMap Query.declared) n).or (lookup? s.defaults (.text n)) := by
  induction qs using List.reverseRecOn with
  | nil => rfl
  | append_singleton qs q ih =>
    rw [afterAll_append, default?_perform, ih, List.flatMap_append, Value.last?_append,
      Option.or_assoc, List.flatMap_singleton]

/-! ### All ways of asking -/

/-- What a store tells about a variable in which something is set or not, and which has a default
or not. -/
structure Shows (s : Store) (table key : Value) (set? default? : Option Value) : Prop where
  has : s.perform (.has table key) = (.ok (.bool (set?.or default?).isSome), s)
  get : s.perform (.get table key) = (.ok ((set?.or default?).getD .null), s)
  /-- The key stands among all entries of the table if the variable exists, and with its value. -/
  all : ∃ entries, s.perform (.all table) = (.ok (.map entries), s) ∧
    ∀ v, (∃ k, (k, v) ∈ entries ∧ k.text? = key.text?) ↔ set?.or default? = some v
  defaultValue : s.perform (.defaultValue key table) = (.ok (default?.getD .null), s)
  /-- Taking the variable away tells whether something was set. -/
  delete : (s.perform (.delete table key)).1 = .ok (.bool set?.isSome)

theorem perform_eq (checked : s.check q = .ok ()) :
    s.perform q = (.ok (s.apply q).1, (s.apply q).2) := by
  rw [perform, checked]
  rfl

theorem check_delete (named : table.text? = some t) (called : key.text? = some n) :
    s.check (.delete table key) = .ok () := by
  rw [check, checkNames_of_text? s named called, ite_self]

/-- **All ways of asking go back to the two layers**, in a declared table. -/
theorem Tidy.shows (tidy : s.Tidy) (declared : s.tables.contains t = true)
    (named : table.text? = some t) (called : key.text? = some n) :
    s.Shows table key (s.setting? t (.text n)) (lookup? s.defaults (.text n)) := by
  obtain ⟨data, there⟩ := Option.isSome_iff_exists.1 declared
  have found : s.tableOf? table = some data := tableOf?_of_get? named there
  have fit := checkNames_of_text? s named called
  have once := tidy.tables t data there
  rw [setting?_of_get? there]
  constructor
  · refine (perform_eq (q := .has table key) fit).trans ?_
    simp [apply, has, found, Value.lookup?_of_text called]
  · refine (perform_eq (q := .get table key) fit).trans ?_
    simp [apply, get, found, Value.lookup?_of_text called]
  · refine ⟨s.all table, perform_eq (q := .all table) (checkKey_of_text? named), fun v => ?_⟩
    have written : s.all table =
        data.foldl (fun t e => Value.insertEntry t e.1 e.2) s.defaults := by
      rw [all, found]
    have every : KeyedOnce (s.all table) := written ▸ tidy.defaults.insertEntries data
    rw [called, ← every.lookup?_eq_some_iff, written, Value.lookup?_insertEntries, once.last?_eq]
  · refine (perform_eq (q := .defaultValue key table) fit).trans ?_
    simp [apply, defaultValue, hasTable, found, Value.lookup?_of_text called]
  · rw [perform_eq (check_delete named called)]
    cases set : lookup? data (.text n) with
    | none => simp [apply, delete, named, found, tidy.deletes, Value.lookup?_of_text called, set]
    | some v => simp [apply, delete, named, found, tidy.deletes, Value.lookup?_of_text called, set]

theorem tableOf?_eq_none (undeclared : ¬s.tables.contains t = true)
    (named : table.text? = some t) : s.tableOf? table = none := by
  rw [tableOf?, named]
  exact Option.not_isSome_iff_eq_none.1 undeclared

/-- A table that is not declared shows nothing. -/
theorem shows_of_undeclared (undeclared : ¬s.tables.contains t = true)
    (named : table.text? = some t) (called : key.text? = some n) :
    s.Shows table key none none ∧ s.perform (.all table) = (.ok (.map []), s) := by
  have absent : s.tableOf? table = none := tableOf?_eq_none undeclared named
  have fit := checkNames_of_text? s named called
  have empty : s.perform (.all table) = (.ok (.map []), s) := by
    refine (perform_eq (q := .all table) (checkKey_of_text? named)).trans ?_
    simp [apply, all, absent]
  refine ⟨⟨?_, ?_, ⟨[], empty, fun v => by simp⟩, ?_, ?_⟩, empty⟩
  · refine (perform_eq (q := .has table key) fit).trans ?_
    simp [apply, has, absent]
  · refine (perform_eq (q := .get table key) fit).trans ?_
    simp [apply, get, absent]
  · refine (perform_eq (q := .defaultValue key table) fit).trans ?_
    simp [apply, defaultValue, hasTable, absent]
  · rw [perform_eq (check_delete named called)]
    simp [apply, delete, absent]

/-- Stores that show the same of a variable also do so in other words. -/
theorem Shows.transfer {s' : Store} {set? default? set?' default?' : Option Value}
    (shows : s.Shows table key set? default?) (before : s.Shows table key set?' default?')
    (after : s'.Shows table key set?' default?') : s'.Shows table key set? default? where
  has := by
    have told := congrArg Prod.fst (shows.has.symm.trans before.has)
    exact after.has.trans (congrArg (·, s') told.symm)
  get := by
    have told := congrArg Prod.fst (shows.get.symm.trans before.get)
    exact after.get.trans (congrArg (·, s') told.symm)
  all := by
    obtain ⟨entries, told, mem_iff⟩ := shows.all
    obtain ⟨entries', told', mem_iff'⟩ := before.all
    cases told.symm.trans told'
    obtain ⟨later, answered, mem_later⟩ := after.all
    exact ⟨later, answered, fun v => (mem_later v).trans ((mem_iff' v).symm.trans (mem_iff v))⟩
  defaultValue := by
    have told := congrArg Prod.fst (shows.defaultValue.symm.trans before.defaultValue)
    exact after.defaultValue.trans (congrArg (·, s') told.symm)
  delete := after.delete.trans (before.delete.symm.trans shows.delete)

/-- An operation on one variable leaves what is shown of every other one. -/
theorem Tidy.shows_perform (tidy : s.Tidy) {t' n' : String}
    (writes : (q.written? t n).isSome = true) (other : (t', n') ≠ (t, n))
    (named : table.text? = some t') (called : key.text? = some n') {set? default? : Option Value}
    (shows : s.Shows table key set? default?) :
    (s.perform q).2.Shows table key set? default? := by
  have elsewhere : q.written? t' n' = none ∧ q.declared = [] := by
    cases q with
    | set _ _ _ | delete _ _ =>
      rw [Query.written?] at writes
      split at writes
      · next both =>
        refine ⟨if_neg fun both' => other ?_, rfl⟩
        exact Prod.ext (Option.some.inj (both'.1.symm.trans both.1))
          (Option.some.inj (both'.2.symm.trans both.2))
      · cases writes
    | _ => cases writes
  have still := contains_perform s q t'
  by_cases declared : s.tables.contains t' = true
  · have after := (tidy.perform q).shows (still.trans declared) named called
    rw [setting?_perform tidy.deletes declared, default?_perform, elsewhere.1, elsewhere.2]
      at after
    exact shows.transfer (tidy.shows declared named called) after
  · have later := (shows_of_undeclared (by rwa [still]) named called).1
    exact shows.transfer (shows_of_undeclared declared named called).1 later

theorem written?_delete (named : table.text? = some t) (called : key.text? = some n) :
    (Query.delete table key).written? t n = some none := if_pos ⟨named, called⟩

/-- Taking a variable away leaves its default. -/
theorem Tidy.shows_delete (tidy : s.Tidy) (declared : s.tables.contains t = true)
    (named : table.text? = some t) (called : key.text? = some n) :
    (s.perform (.delete table key)).2.Shows table key none (lookup? s.defaults (.text n)) := by
  have still := contains_perform s (.delete table key) t
  have after := (tidy.perform (.delete table key)).shows (still.trans declared) named called
  rw [setting?_perform tidy.deletes declared, default?_perform, written?_delete named called]
    at after
  exact after

/-- In a fresh store nothing is set. -/
theorem setting?_ofTables (names : List String) (defaults : List (Value × Value)) (t n : String) :
    (ofTables names defaults).setting? t (.text n) = none := by
  rw [setting?, ofTables, Table.ofList, Table.get?_insertAll_const]
  split
  · rfl
  · rfl

/-- **All ways of asking a store agree after every history.** Of a store with some declared tables
and some defaults, whatever operations were made, under any names: every variable of a declared
table shows what was last set and not taken away since, or else the default that was declared last;
taking it away tells whether something was set, and leaves the default. The tables stay those that
were declared at first, and any other one shows nothing. An operation that sets or takes away a
variable leaves what is shown of all others. -/
theorem views_agree (names : List String) (defaults : List (Value × Value)) (qs : List Query)
    {table key : Value} {t n : String} (named : table.text? = some t)
    (called : key.text? = some n) :
    let s := (ofTables names defaults).afterAll qs
    let default? := last? (defaults ++ qs.flatMap Query.declared) n
    (t ∈ names → s.Shows table key (lastSet? qs t n) default? ∧
      (s.perform (.delete table key)).2.Shows table key none default?) ∧
    (t ∉ names → s.Shows table key none none ∧ s.perform (.all table) = (.ok (.map []), s)) ∧
    s.perform (.hasTable table) = (.ok (.bool (decide (t ∈ names))), s) ∧
    s.tableNames = (ofTables names defaults).tableNames ∧
    ∀ q, (q.written? t n).isSome = true → ∀ table' key' t' n', table'.text? = some t' →
      key'.text? = some n' → (t', n') ≠ (t, n) → ∀ set? default?,
        s.Shows table' key' set? default? →
          (s.perform q).2.Shows table' key' set? default? := by
  intro s default?
  have same : SameTables (ofTables names defaults) s := sameTables_afterAll _ qs
  have tidy : s.Tidy := (tidy_ofTables names defaults).afterAll qs
  have declared : s.tables.contains t = true ↔ t ∈ names :=
    Bool.eq_iff_iff.1 (same.declared t).symm |>.trans contains_ofTables
  have default : lookup? s.defaults (.text n) = default? := by
    have first : lookup? (ofTables names defaults).defaults (.text n) = last? defaults n :=
      (Value.lookup?_insertEntries [] defaults n).trans Option.or_none
    show _ = last? (defaults ++ _) n
    rw [default?_afterAll, Value.last?_append, first]
  refine ⟨fun there => ?_, fun absent => ?_, ?_, same.tables.symm, ?_⟩
  · have set : s.setting? t (.text n) = lastSet? qs t n :=
      setting?_afterAll (tidy_ofTables names defaults) (contains_ofTables.2 there)
        (setting?_ofTables names defaults t n) qs
    rw [← set, ← default]
    have known := declared.2 there
    exact ⟨tidy.shows known named called, tidy.shows_delete known named called⟩
  · exact shows_of_undeclared (mt declared.1 absent) named called
  · refine (perform_eq (q := .hasTable table) (checkKey_of_text? named)).trans ?_
    have told : s.hasTable table = decide (t ∈ names) := by
      rw [hasTable, tableOf?, named, Bool.eq_iff_iff, decide_eq_true_iff]
      exact declared
    rw [apply, told]
  · intro q writes table' key' t' n' named' called' other set? default? shows
    exact tidy.shows_perform writes other named' called' shows

/-- A null that is set hides the default, and taking it away uncovers the default that was declared
meanwhile. -/
theorem views_agree_null :
    let qs := [Query.set (.text "main") (.text "coins") .null,
      .declare [(.text "coins", .int 10)], .set (.text "other") (.text "coins") (.int 5)]
    let s := (ofTables ["main"] [(.text "coins", .int 1)]).afterAll qs
    (Value.text "main").text? = some "main" ∧ (Value.derivedText "coins").text? = some "coins" ∧
      s.Shows (.text "main") (.derivedText "coins") (some .null) (some (.int 10)) ∧
      (s.perform (.delete (.text "main") (.derivedText "coins"))).2.Shows (.text "main")
        (.derivedText "coins") none (some (.int 10)) := by
  intro qs s
  have named : (Value.text "main").text? = some "main" := rfl
  have called : (Value.derivedText "coins").text? = some "coins" := rfl
  have agree := (views_agree ["main"] [(.text "coins", .int 1)] qs named called).1
    List.mem_cons_self
  exact ⟨named, called, agree.1, agree.2⟩

end Store

end CommandScript
