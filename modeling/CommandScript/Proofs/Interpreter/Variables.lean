import CommandScript.Proofs.BuiltIn.Variables

/-!
# Variables, from command string to command string

Command strings that set or read one variable each, with arbitrary texts. Whatever came before,
reading gives what was last set in the same table under the same name, or else the declared default;
setting changes no other variable; and where the table is not declared, or nothing is known of the
variable there, the dispatch ends for that reason and the store stays as it is.

## Main definitions

- `CommandScript.VariableCommand` — a command string that sets or reads a variable
- `CommandScript.VariableCommand.value?` — the value of a variable after some commands
- `CommandScript.VariableCommand.Reached` — the worlds that such commands lead to
- `CommandScript.VariableCommand.Responds` — what has to come of a command

## Main results

- `CommandScript.VariableCommand.responds_of_keeps` — one command
- `CommandScript.VariableCommand.variables_stored` — any number of commands
-/

namespace CommandScript

/-- A command string that sets or reads a variable. The table may be left out. -/
inductive VariableCommand where
  | set (name value : String) (table : Option String)
  | get (name : String) (table : Option String)

namespace VariableCommand

open Script

/-- The name of the variable. -/
def name : VariableCommand → String
  | .set n _ _ => n
  | .get n _ => n

/-- The text that stands for the table: none where it is left out. -/
def given : VariableCommand → String
  | .set _ _ t => t.getD ""
  | .get _ t => t.getD ""

/-- The name of the function that is called. -/
def word : VariableCommand → List Char
  | .set .. => ['s', 'e', 't', 'V', 'a', 'r']
  | .get .. => ['g', 'e', 't', 'V', 'a', 'r']

/-- The arguments of the call. -/
def texts : VariableCommand → List (List Char)
  | .set n v t => [n.toList, v.toList] ++ (t.map String.toList).toList
  | .get n t => [n.toList] ++ (t.map String.toList).toList

/-- The command string: a call whose arguments are texts with their escapes. -/
def source (c : VariableCommand) : List Char :=
  '$' :: c.word ++ '[' :: joined (c.texts.map escape) ++ [']']

/-- The declared table that is meant: the first one where none is named. -/
def place? (names : List String) (c : VariableCommand) : Option String :=
  if c.given = "" then names.head? else if c.given ∈ names then some c.given else none

/-- The value of a variable in a table after some commands, the latest first: what was last set
there under its name, as far as there was a variable, or else the default that was declared last. -/
def value? (names : List String) (defaults : List (String × String)) :
    List VariableCommand → (table name : String) → Option String
  | [], t, n => if t ∈ names then defaults.reverse.lookup n else none
  | .get _ _ :: past, t, n => value? names defaults past t n
  | .set n' v t' :: past, t, n =>
    let before := value? names defaults past t n
    if place? names (.set n' v t') = some t ∧ n' = n ∧ before.isSome then some v else before

/-- A store that declares tables and text defaults, and in which nothing has been set. -/
def fresh (names : List String) (defaults : List (String × String)) : Store :=
  .ofTables names (defaults.map fun e => (.text e.1, .text e.2))

/-- The built-in functions for variables can be called. -/
structure Offered (i : Interpreter) (rs : Registries) : Prop where
  set : ∃ name version, rs.find? i.functions (FunctionName.key "setVar") =
    some (.native name (.of BuiltIn.setVariable) version)
  get : ∃ name version, rs.find? i.functions (FunctionName.key "getVar") =
    some (.native name (.of BuiltIn.getVariable) version)

/-- The worlds that commands lead to, each as a dispatch of its own for any event and under any
name, the latest first. The names of variables are not empty. -/
inductive Reached (i : Interpreter) (w₀ : World) : List VariableCommand → World → Prop
  | start : Reached i w₀ [] w₀
  | step {past : List VariableCommand} {w : World} {c : VariableCommand} {v : Invocation}
      (before : Reached i w₀ past w) (named : c.name ≠ "") (written : v.source = c.source)
      (alone : v.functions = []) : Reached i w₀ (c :: past) (w.run (i.handle v)).2

/-- What has to come of a command after others, with the store before and after it. -/
structure Responds (names : List String) (defaults : List (String × String))
    (past : List VariableCommand) (c : VariableCommand) (r : Result) (s s' : Store) : Prop where
  /-- A table that is not declared ends the dispatch. -/
  undeclared : c.place? names = none →
    r.status = .aborted ∧ r.reason = some "table" ∧ s' = s
  /-- So does a variable that has neither a default nor been set. -/
  missing : ∀ t, c.place? names = some t → value? names defaults past t c.name = none →
    r.status = .aborted ∧ r.reason = some "variable" ∧ s' = s
  /-- Reading gives the value. -/
  read : ∀ n table t v, c = .get n table → c.place? names = some t →
    value? names defaults past t n = some v →
      r.status = .success ∧ r.output = some v ∧ s' = s
  /-- Setting gives nothing, and the value is there. -/
  written : ∀ n new table t v, c = .set n new table → c.place? names = some t →
    value? names defaults past t n = some v →
      r.status = .success ∧ r.output = some "" ∧ s'.get (.text t) (.text n) = .text new
  /-- No command changes what is read under another name or in another table. -/
  others : ∀ t n, ¬(c.place? names = some t ∧ c.name = n) →
    s'.get (.text t) (.text n) = s.get (.text t) (.text n) ∧
      s'.has (.text t) (.text n) = s.has (.text t) (.text n)

open Evaluation BuiltIn

variable {names : List String} {defaults : List (String × String)} {past : List VariableCommand}
  {i : Interpreter} {w₀ w : World} {c : VariableCommand} {v : Invocation} {rs : Registries}
  {s s' : Store} {scope : Scope} {d : Dispatch} {table : String}

/-- What the store is after some commands: the tables are those declared, and what is read in them
is what the commands say. -/
structure Keeps (names : List String) (defaults : List (String × String))
    (past : List VariableCommand) (s : Store) : Prop where
  keys : s.tables.keys = (fresh names defaults).tables.keys
  reading : ∀ t n, s.reading? t n = (value? names defaults past t n).map .text

theorem keeps_fresh : Keeps names defaults [] (fresh names defaults) where
  keys := rfl
  reading := fun t n => by
    rw [fresh, Store.reading?_ofTables, value?, Store.lookup?_ofEntries_texts]
    split <;> rfl

theorem Keeps.contains (keeps : Keeps names defaults past s) (t : String) :
    s.tables.contains t = true ↔ t ∈ names := by
  rw [Table.contains_iff, keeps.keys, ← Table.contains_iff, fresh, Store.contains_ofTables]

/-- A table is meant by a command: the declared one, unless it is not declared. -/
theorem Keeps.exists_table (keeps : Keeps names defaults past s) (declared : names ≠ [])
    (c : VariableCommand) : ∃ t, s.tableFor? c.given = some t ∧
      c.place? names = if s.tables.contains t then some t else none := by
  -- No command declares a table, so that the first one is that of the fresh store.
  have first : s.defaultTable = names.head? := by
    rw [Store.defaultTable, Store.tableNames, keeps.keys]
    exact Store.defaultTable_ofTables
  rw [Store.tableFor?, place?, first]
  by_cases empty : c.given = ""
  · obtain ⟨t, rest, rfl⟩ := List.exists_cons_of_ne_nil declared
    refine ⟨t, by rw [if_pos empty]; rfl, ?_⟩
    rw [if_pos empty, if_pos ((keeps.contains t).2 List.mem_cons_self)]
    rfl
  · refine ⟨c.given, if_neg empty, ?_⟩
    rw [if_neg empty]
    simp only [keeps.contains]

theorem isIdentifier_word (c : VariableCommand) : IsIdentifier c.word := by
  cases c with
  | set => exact isName_iff.1 (show isName ['s', 'e', 't', 'V', 'a', 'r'] = true by decide)
  | get => exact isName_iff.1 (show isName ['g', 'e', 't', 'V', 'a', 'r'] = true by decide)

/-- The call that a command is read as. -/
def call (c : VariableCommand) : Call := ⟨c.word, joined (c.texts.map escape), 0, 1⟩

theorem segments_command (c : VariableCommand) : segments c.source 1 = .ok [.call c.call] :=
  segments_call_escaped c.isIdentifier_word c.texts 1

theorem arguments_call (named : c.name ≠ "") : c.call.arguments = c.texts.map escape := by
  refine arguments_escaped ?_ ?_
  · cases c <;> simp [texts]
  · cases c with
    | set => simp [texts]
    | get n t =>
      have given : n.toList ≠ [] := by simpa [name] using named
      simp [texts, given]

theorem textAt_name (c : VariableCommand) : textAt c.texts 0 = c.name := by
  cases c <;> simp [textAt, texts, name]

theorem textAt_value (n x : String) (t : Option String) : textAt (set n x t).texts 1 = x := by
  simp [textAt, texts]

theorem textAt_given_set (n x : String) (t : Option String) :
    textAt (set n x t).texts 2 = (set n x t).given := by
  cases t <;> simp [textAt, texts, given]

theorem textAt_given_get (n : String) (t : Option String) :
    textAt (get n t).texts 1 = (get n t).given := by
  cases t <;> simp [textAt, texts, given]

/-- The text that a command stands for, given that of the variable. -/
def shown (c : VariableCommand) (x : String) : String :=
  match c with
  | .set .. => ""
  | .get .. => x

/-- The store that a command leaves where there is the variable. -/
def left (c : VariableCommand) (t : String) (s : Store) : Store :=
  match c with
  | .set n v _ => s.set (.text t) (.text n) (.text v)
  | .get .. => s

/-- What evaluating a command gives and leaves, for the table that is meant. -/
def Gives (c : VariableCommand) (t : String) (s : Store) (o : Outcome) (s' : Store) : Prop :=
  match s.tables.contains t, s.reading? t c.name with
  | false, _ => (∃ diagnostic function, o = .error (.aborted "table" diagnostic function)) ∧ s' = s
  | true, none =>
    (∃ diagnostic function, o = .error (.aborted "variable" diagnostic function)) ∧ s' = s
  | true, some v => ∃ x, v = .text x ∧ o = .ok (c.shown x) ∧ s' = c.left t s

theorem leads_finish (returned : Value → Value) (unended : d.halted = none)
    (textual : ∀ v, s.reading? table c.name = some v → ∃ x, v = .text x)
    (printed : ∀ x, (returned (.text x)).printed = .ok (c.shown x)) {r : Except Failure Reply}
    {d' : Dispatch} (answers : Answers s table c.name returned (c.left table s) d r d' s') :
    Leads rs s' (finish scope c.call r) d' fun o _ s'' => c.Gives table s o s'' := by
  unfold Answers at answers
  unfold Gives
  cases declared : s.tables.contains table with
  | false =>
    rw [declared] at answers
    obtain ⟨diagnostic, function, rfl, ended, rfl⟩ := answers
    exact (leads_finish_halt ended).imp fun o _ _ gave => ⟨⟨_, _, gave.1⟩, gave.2⟩
  | true =>
    cases there : s.reading? table c.name with
    | none =>
      rw [declared, there] at answers
      obtain ⟨diagnostic, function, rfl, ended, rfl⟩ := answers
      exact (leads_finish_halt ended).imp fun o _ _ gave => ⟨⟨_, _, gave.1⟩, gave.2⟩
    | some v =>
      rw [declared, there] at answers
      obtain ⟨rfl, rfl, rfl⟩ := answers
      obtain ⟨x, rfl⟩ := textual v there
      exact (leads_finish_value unended (printed x)).imp fun o _ _ gave => ⟨x, rfl, gave⟩

/-- Evaluating a command does to the table that is meant what the function does. -/
theorem leads_source (offered : Offered i rs) (named : c.name ≠ "")
    (textual : ∀ v, s.reading? table c.name = some v → ∃ x, v = .text x)
    (meant : s.tableFor? c.given = some table) :
    Leads rs s (render (i.scope i.functions v) i.settings.maxDepth c.source 1) .start
      fun o _ s' => c.Gives table s o s' := by
  obtain ⟨remaining, depth⟩ : ∃ remaining, i.settings.maxDepth = remaining + 1 :=
    Nat.exists_eq_succ_of_ne_zero (Nat.ne_of_gt i.settings.one_le_maxDepth)
  rw [depth]
  refine leads_render (segments_command c) rfl ?_
  have written : c.call.arguments = c.texts.map escape := arguments_call named
  cases c with
  | set n x t =>
    obtain ⟨_, _, found⟩ := offered.set
    refine leads_call found (leads_setVariable written rfl ?_ (textAt_given_set n x t ▸ meant)) ?_
    · simp [texts]
    · intro r d' s' answers
      rw [textAt_name, textAt_value] at answers
      exact leads_finish _ rfl textual (fun _ => rfl) answers
  | get n t =>
    obtain ⟨_, _, found⟩ := offered.get
    refine leads_call found (leads_getVariable written rfl ?_ (textAt_given_get n t ▸ meant)) ?_
    · simp [texts]
    · intro r d' s' answers
      rw [textAt_name] at answers
      exact leads_finish id rfl textual (fun _ => rfl) answers

theorem Keeps.step_same (keeps : Keeps names defaults past s)
    (idle : ∀ n v t, c = .set n v t →
      ∀ t', c.place? names = some t' → value? names defaults past t' n = none) :
    Keeps names defaults (c :: past) s where
  keys := keeps.keys
  reading := fun t n => by
    rw [keeps.reading]
    cases c with
    | get => rfl
    | set n' v t' =>
      rw [value?, if_neg]
      rintro ⟨here, rfl, there⟩
      rw [idle n' v t' rfl t here] at there
      cases there

/-- What is set is there afterwards, and nothing else is other than before. -/
theorem Keeps.step_set {n v : String} {t : Option String} (keeps : Keeps names defaults past s)
    (declared : s.tables.contains table = true)
    (here : place? names (.set n v t) = some table)
    (there : (value? names defaults past table n).isSome) :
    Keeps names defaults (.set n v t :: past) (s.set (.text table) (.text n) (.text v)) where
  keys := (Store.keys_set s table n _).trans keeps.keys
  reading := fun t' n' => by
    rw [Store.reading?_set declared, value?, here]
    by_cases same : table = t' ∧ n = n'
    · obtain ⟨rfl, rfl⟩ := same
      rw [if_pos ⟨rfl, rfl⟩, if_pos ⟨rfl, rfl, there⟩]
      rfl
    · rw [if_neg same, if_neg fun all => same ⟨Option.some.inj all.1, all.2.1⟩, keeps.reading]

section Cases

variable {r : Result} {old : String}

theorem responds_undeclared (nowhere : c.place? names = none) (status : r.status = .aborted)
    (reason : r.reason = some "table") : Responds names defaults past c r s s where
  undeclared := fun _ => ⟨status, reason, rfl⟩
  missing := fun t here => by cases nowhere.symm.trans here
  read := fun _ _ t _ _ here => by cases nowhere.symm.trans here
  written := fun _ _ _ t _ _ here => by cases nowhere.symm.trans here
  others := fun _ _ _ => ⟨rfl, rfl⟩

theorem responds_missing (here : c.place? names = some table)
    (unknown : value? names defaults past table c.name = none) (status : r.status = .aborted)
    (reason : r.reason = some "variable") : Responds names defaults past c r s s where
  undeclared := fun nowhere => by cases nowhere.symm.trans here
  missing := fun _ _ _ => ⟨status, reason, rfl⟩
  read := by
    rintro n t' t v rfl there found
    obtain rfl := Option.some.inj (here.symm.trans there)
    cases unknown.symm.trans found
  written := by
    rintro n new t' t v rfl there found
    obtain rfl := Option.some.inj (here.symm.trans there)
    cases unknown.symm.trans found
  others := fun _ _ _ => ⟨rfl, rfl⟩

theorem responds_found (declared : s.tables.contains table = true)
    (here : c.place? names = some table)
    (known : value? names defaults past table c.name = some old)
    (status : r.status = .success) (output : r.output = some (c.shown old)) :
    Responds names defaults past c r s (c.left table s) where
  undeclared := fun nowhere => by cases nowhere.symm.trans here
  missing := fun t there missing => by
    obtain rfl := Option.some.inj (here.symm.trans there)
    cases known.symm.trans missing
  read := by
    rintro n t' t v rfl there found
    obtain rfl := Option.some.inj (here.symm.trans there)
    obtain rfl := Option.some.inj (known.symm.trans found)
    exact ⟨status, output, rfl⟩
  written := by
    rintro n new t' t v rfl there -
    obtain rfl := Option.some.inj (here.symm.trans there)
    refine ⟨status, output, ?_⟩
    rw [left, Store.get_text, Store.reading?_set declared, if_pos ⟨rfl, rfl⟩]
    rfl
  others := by
    intro t n other
    cases c with
    | get => exact ⟨rfl, rfl⟩
    | set n' new t' =>
      have elsewhere : ¬(table = t ∧ n' = n) := fun same => other ⟨same.1 ▸ here, same.2⟩
      rw [left, Store.get_text, Store.has_text, Store.reading?_set declared, if_neg elsewhere,
        Store.get_text, Store.has_text]
      exact ⟨rfl, rfl⟩

end Cases

/-- **One command** after others: what comes of it, and what the store is then. -/
theorem responds_of_gives {o : Outcome} {a : Except Failure Result}
    (keeps : Keeps names defaults past s)
    (meant : c.place? names = if s.tables.contains table then some table else none)
    (gives : c.Gives table s o s') (concluded : o.Concluded a) :
    (∃ r, a = .ok r ∧ Responds names defaults past c r s s') ∧
      Keeps names defaults (c :: past) s' := by
  unfold Gives at gives
  cases declared : s.tables.contains table with
  | false =>
    rw [declared] at gives meant
    obtain ⟨⟨diagnostic, function, rfl⟩, rfl⟩ := gives
    obtain ⟨r, result, status, reason⟩ := concluded.aborted _ _ _ rfl
    have nowhere : c.place? names = none := meant
    refine ⟨⟨r, result, responds_undeclared nowhere status reason⟩, keeps.step_same ?_⟩
    rintro n v t rfl t' here
    cases nowhere.symm.trans here
  | true =>
    rw [declared] at gives meant
    have here : c.place? names = some table := meant
    have known := keeps.reading table c.name
    cases there : s.reading? table c.name with
    | none =>
      rw [there] at gives known
      obtain ⟨⟨diagnostic, function, rfl⟩, rfl⟩ := gives
      obtain ⟨r, result, status, reason⟩ := concluded.aborted _ _ _ rfl
      have unknown : value? names defaults past table c.name = none :=
        Option.map_eq_none_iff.1 known.symm
      refine ⟨⟨r, result, responds_missing here unknown status reason⟩, keeps.step_same ?_⟩
      rintro n v t rfl t' there
      obtain rfl := Option.some.inj (here.symm.trans there)
      exact unknown
    | some x =>
      rw [there] at gives known
      obtain ⟨old, rfl, rfl, rfl⟩ := gives
      obtain ⟨r, result, status, output⟩ := concluded.success _ rfl
      have found : value? names defaults past table c.name = some old := by
        obtain ⟨old', found, same⟩ := Option.map_eq_some_iff.1 known.symm
        exact Value.text.inj same ▸ found
      refine ⟨⟨r, result, responds_found declared here found status output⟩, ?_⟩
      cases c with
      | get => exact keeps.step_same fun _ _ _ other => by cases other
      | set n new t => exact keeps.step_set declared here (Option.isSome_of_eq_some found)

theorem Keeps.handle (keeps : Keeps names defaults past w.store) (declared : names ≠ [])
    (offered : Offered i w.registries) (named : c.name ≠ "") (written : v.source = c.source)
    (alone : v.functions = []) :
    (∃ r, (w.run (i.handle v)).1 = .ok r ∧
      Responds names defaults past c r w.store (w.run (i.handle v)).2.store) ∧
    Keeps names defaults (c :: past) (w.run (i.handle v)).2.store ∧
      (w.run (i.handle v)).2.registries = w.registries := by
  obtain ⟨table, meant, place⟩ := keeps.exists_table declared c
  have textual (x : Value) (there : w.store.reading? table c.name = some x) : ∃ t, x = .text t := by
    rw [keeps.reading] at there
    obtain ⟨t, -, rfl⟩ := Option.map_eq_some_iff.1 there
    exact ⟨t, rfl⟩
  have evaluated := leads_source (v := v) offered named textual meant
  rw [← written] at evaluated
  obtain ⟨registries, o, concluded, gives⟩ :=
    Interpreter.handle_of_leads alone evaluated w rfl rfl
  obtain ⟨responds, still⟩ := responds_of_gives keeps place gives concluded
  exact ⟨responds, still, registries⟩

/-- Commands keep the store in step with what they say, and the registries as they are. -/
theorem keeps_of_reached (declared : names ≠ []) (start : w₀.store = fresh names defaults)
    (offered : Offered i w₀.registries) (reached : Reached i w₀ past w) :
    Keeps names defaults past w.store ∧ w.registries = w₀.registries := by
  induction reached with
  | start => exact ⟨start ▸ keeps_fresh, rfl⟩
  | step before named written alone ih =>
    obtain ⟨keeps, same⟩ := ih
    obtain ⟨-, still, registries⟩ := keeps.handle declared (same ▸ offered) named written alone
    exact ⟨still, registries.trans same⟩

/-- **Variables are stored by table and name, with defaults.** Take a store that declares at least
one table, and defaults that are texts. Whatever commands came before, each of them any text as the
name of a variable, as its value and as a table: reading a variable gives what was last set in that
table under that name, or else the default; setting it gives nothing, and changes what is read
under no other name and in no other table. Where the table is not declared, or there is no such
variable in it, the dispatch ends for that reason and the store is as it was. -/
theorem variables_stored (i : Interpreter) (w₀ : World) (names : List String)
    (defaults : List (String × String)) (declared : names ≠ [])
    (start : w₀.store = fresh names defaults) (offered : Offered i w₀.registries)
    (past : List VariableCommand) (w : World) (reached : Reached i w₀ past w)
    (c : VariableCommand) (v : Invocation) (named : c.name ≠ "") (written : v.source = c.source)
    (alone : v.functions = []) :
    ∃ r, (w.run (i.handle v)).1 = .ok r ∧
      Responds names defaults past c r w.store (w.run (i.handle v)).2.store := by
  obtain ⟨keeps, same⟩ := keeps_of_reached declared start offered reached
  exact (keeps.handle declared (same ▸ offered) named written alone).1

/-- A world with the two functions, two tables and one default. -/
def offering : World :=
  { World.empty .null with
    registries := ⟨[⟨.null, [], [("setvar", .native "$setVar" (.of setVariable) .null),
      ("getvar", .native "$getVar" (.of getVariable) .null)]⟩]⟩
    store := fresh ["main", "other"] [("k", "0")] }

/-- What is set in the first table is read there, and the other table still has the default. -/
theorem variables_stored_default :
    let setting : VariableCommand := .set "k" "1;" none
    let w := (offering.run (Interpreter.bare.handle (Interpreter.plain setting.source))).2
    ["main", "other"] ≠ [] ∧ offering.store = fresh ["main", "other"] [("k", "0")] ∧
      Offered Interpreter.bare offering.registries ∧ Reached Interpreter.bare offering [setting] w ∧
      ∀ table out, (table, out) ∈ [(some "main", "1;"), (some "", "1;"), (some "other", "0")] →
        ∃ r, (w.run (Interpreter.bare.handle
            (Interpreter.plain (VariableCommand.get "k" table).source))).1 = .ok r ∧
          r.status = .success ∧ r.output = some out := by
  intro setting w
  have offered : Offered Interpreter.bare offering.registries :=
    ⟨⟨_, _, rfl⟩, ⟨_, _, rfl⟩⟩
  have reached : Reached Interpreter.bare offering [setting] w :=
    .step .start (by decide) rfl rfl
  refine ⟨by decide, rfl, offered, reached, fun table out listed => ?_⟩
  have named : (VariableCommand.get "k" table).name ≠ "" := show "k" ≠ "" by decide
  obtain ⟨r, handled, responds⟩ := variables_stored Interpreter.bare offering ["main", "other"]
    [("k", "0")] (by decide) rfl offered [setting] w reached (.get "k" table)
    (Interpreter.plain (VariableCommand.get "k" table).source) named rfl rfl
  refine ⟨r, handled, ?_⟩
  simp only [List.mem_cons, Prod.mk.injEq, List.not_mem_nil, or_false] at listed
  obtain ⟨rfl, rfl⟩ | ⟨rfl, rfl⟩ | ⟨rfl, rfl⟩ := listed
  · obtain ⟨status, output, -⟩ := responds.read "k" _ "main" "1;" rfl (by decide) (by decide)
    exact ⟨status, output⟩
  · obtain ⟨status, output, -⟩ := responds.read "k" _ "main" "1;" rfl (by decide) (by decide)
    exact ⟨status, output⟩
  · obtain ⟨status, output, -⟩ := responds.read "k" _ "other" "0" rfl (by decide) (by decide)
    exact ⟨status, output⟩

end VariableCommand

end CommandScript
