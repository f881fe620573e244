import CommandScript.Proofs.Store.Variables
import CommandScript.Proofs.World.Triple

/-!
# The built-in functions for variables

One function gives the value of a variable and the other one sets it. Both name the variable and a
table, or take the first declared table if none is named. Where the table is not declared, or the
variable is not in it, they end the dispatch and leave the store as it is.

## Main definitions

- `CommandScript.Store.tableFor?` — the table that a text names
- `CommandScript.BuiltIn.Ends`, `CommandScript.BuiltIn.Returns` — what comes of a function

## Main results

- `CommandScript.BuiltIn.leads_getVariable` — reading a variable
- `CommandScript.BuiltIn.leads_setVariable` — setting a variable
-/

namespace CommandScript

/-- The table that a text names: the first declared one if the text is empty. -/
def Store.tableFor? (s : Store) (given : String) : Option String :=
  if given = "" then s.defaultTable else some given

namespace BuiltIn

open Evaluation Script

variable {rs : Registries} {s s' : Store} {d : Dispatch} {scope : Scope} {remaining : Nat}
  {c : Call} {ts : List (List Char)} {go : Routine Callback Reply}
  {k : Value → Routine Callback Reply} {post : Except Failure Reply → Dispatch → Store → Prop}
  {table name : String} {v : Value}

/-- A function ends the dispatch for a reason and leaves the store. -/
def Ends (reason : String) (s : Store) (r : Except Failure Reply) (d' : Dispatch) (s' : Store) :
    Prop :=
  ∃ diagnostic function, r = .ok (.halt (.aborted reason diagnostic function)) ∧
    d'.halted = some (.aborted reason diagnostic function) ∧ s' = s

/-- A function returns a value, leaves the dispatch, and leaves the given store. -/
def Returns (v : Value) (d : Dispatch) (s : Store) (r : Except Failure Reply) (d' : Dispatch)
    (s' : Store) : Prop :=
  r = .ok (.value v) ∧ d' = d ∧ s' = s

theorem leads_withCount {expected : Int} (written : c.arguments = ts.map escape)
    (enough : expected ≤ ts.length) (rest : LeadsCall rs s scope remaining c ts go d post) :
    LeadsCall rs s scope remaining c ts (withCount expected false go) d post := by
  rw [withCount_eq]
  refine LeadsCall.look fun v arguments _ => ?_
  rw [arguments, written, List.length_map, if_neg]
  · exact rest
  · simpa using enough

theorem leads_unlessAborted (unended : d.halted = none)
    (rest : LeadsCall rs s scope remaining c ts go d post) :
    LeadsCall rs s scope remaining c ts (unlessAborted go) d post := by
  refine LeadsCall.look fun v _ aborted => ?_
  have going : v.isAborted = false := by rw [aborted, Dispatch.isHalted, unended]; rfl
  show LeadsCall rs s scope remaining c ts (if v.isAborted then Routine.nothing else go)
      d post
  rw [going]
  exact rest

theorem leads_tableName (written : c.arguments = ts.map escape) (unended : d.halted = none)
    {i : Nat} (named : s.tableFor? (textAt ts i) = some table)
    (rest : LeadsCall rs s scope remaining c ts (k (.text table)) d post) :
    LeadsCall rs s scope remaining c ts (tableName i >>= k) d post := by
  refine LeadsCall.argumentOr (k := fun given =>
    (if given = "" then Routine.store .defaultTable else pure (.text given)) >>= k)
    written unended i ?_
  rw [Store.tableFor?] at named
  split
  · next empty =>
    rw [if_pos empty] at named
    have answered : s.perform .defaultTable = (.ok (.text table), s) := by
      rw [Store.perform_defaultTable, named]
      rfl
    exact LeadsCall.store answered rest
  · next given =>
    rw [if_neg given] at named
    obtain rfl := Option.some.inj named
    exact rest

section WithVariable

variable (unended : d.halted = none)
include unended

theorem ends_of_undeclared (undeclared : s.tables.contains table = false) :
    LeadsCall rs s scope remaining c ts (withVariable (.text table) name go) d
      (Ends "table" s) := by
  refine LeadsCall.store Store.perform_hasTable ?_
  rw [undeclared]
  exact LeadsCall.ending unended fun diagnostic function => ⟨diagnostic, function, rfl, rfl, rfl⟩

theorem ends_of_missing (declared : s.tables.contains table = true)
    (missing : s.reading? table name = none) :
    LeadsCall rs s scope remaining c ts (withVariable (.text table) name go) d
      (Ends "variable" s) := by
  refine LeadsCall.store Store.perform_hasTable ?_
  rw [declared]
  refine LeadsCall.store Store.perform_has ?_
  rw [missing]
  exact LeadsCall.ending unended fun diagnostic function => ⟨diagnostic, function, rfl, rfl, rfl⟩

end WithVariable

theorem declared_of_reading? (there : s.reading? table name = some v) :
    s.tables.contains table = true := by
  rw [Store.reading?] at there
  obtain ⟨data, found, -⟩ := Option.bind_eq_some_iff.1 there
  rw [Table.contains, found]
  rfl

theorem leads_withVariable (there : s.reading? table name = some v)
    (rest : LeadsCall rs s scope remaining c ts go d post) :
    LeadsCall rs s scope remaining c ts (withVariable (.text table) name go) d post := by
  refine LeadsCall.store Store.perform_hasTable ?_
  rw [declared_of_reading? there]
  refine LeadsCall.store Store.perform_has ?_
  rw [there]
  exact rest

/-- What comes of a function on a variable of a table, given what it returns for the value of the
variable and which store it leaves then. -/
def Answers (s : Store) (table name : String) (returned : Value → Value) (left : Store)
    (d : Dispatch) (r : Except Failure Reply) (d' : Dispatch) (s' : Store) : Prop :=
  match s.tables.contains table, s.reading? table name with
  | false, _ => Ends "table" s r d' s'
  | true, none => Ends "variable" s r d' s'
  | true, some v => Returns (returned v) d left r d' s'

/-- A function on a variable ends the dispatch where there is no such variable. -/
theorem leads_variable {returned : Value → Value} {left : Store} (unended : d.halted = none)
    (rest : ∀ v, s.reading? table name = some v →
      LeadsCall rs s scope remaining c ts go d (Returns (returned v) d left)) :
    LeadsCall rs s scope remaining c ts (withVariable (.text table) name go) d
      (Answers s table name returned left d) := by
  unfold Answers
  cases declared : s.tables.contains table with
  | false => exact ends_of_undeclared unended declared
  | true =>
    cases there : s.reading? table name with
    | none => exact ends_of_missing unended declared there
    | some v => exact leads_withVariable there (rest v there)

/-- **Reading a variable** gives its value. -/
theorem leads_getVariable (written : c.arguments = ts.map escape) (unended : d.halted = none)
    (enough : 1 ≤ ts.length) (named : s.tableFor? (textAt ts 1) = some table) :
    LeadsCall rs s scope remaining c ts getVariable d
      (Answers s table (textAt ts 0) id s d) := by
  refine leads_withCount written (by exact_mod_cast enough) ?_
  refine LeadsCall.argumentOr written unended 0 (leads_tableName written unended named ?_)
  refine leads_unlessAborted unended (leads_variable unended fun v there => ?_)
  refine LeadsCall.store Store.perform_get ?_
  rw [there]
  exact LeadsCall.done ⟨rfl, rfl, rfl⟩

/-- **Setting a variable** that exists returns nothing and sets it. -/
theorem leads_setVariable (written : c.arguments = ts.map escape) (unended : d.halted = none)
    (enough : 2 ≤ ts.length) (named : s.tableFor? (textAt ts 2) = some table) :
    LeadsCall rs s scope remaining c ts setVariable d
      (Answers s table (textAt ts 0) (fun _ => .null)
        (s.set (.text table) (.text (textAt ts 0)) (.text (textAt ts 1))) d) := by
  refine leads_withCount written (by exact_mod_cast enough) ?_
  refine LeadsCall.argumentOr written unended 0 (LeadsCall.argumentOr written unended 1 ?_)
  refine leads_tableName written unended named ?_
  refine leads_unlessAborted unended (leads_variable unended fun v there => ?_)
  exact LeadsCall.store Store.perform_set (LeadsCall.done ⟨rfl, rfl, rfl⟩)

end BuiltIn

end CommandScript
