import Mathlib.Data.List.Forall2
import CommandScript.Settings.Source

/-!
# What each source gives for a setting

Arguments give a setting with the first of them whose name is that of the setting in some letter
case, an environment with the last entry of its name, and a document with the last of its entries
whose key spells the name. The highest of the three that gives a value decides.

## Main definitions

- `CommandScript.Settings.IsFirst`, `IsLast` — the first and the last item with a property
- `CommandScript.Settings.ArgumentGives`, `EnvironmentGives`, `DocumentGives` — the sources
- `CommandScript.Settings.Describes` — the entries of a document for these settings
- `CommandScript.Settings.Gives` — what the highest source that has a value gives

## Main results

- `CommandScript.Table.lookup_ofList` — the last entry of a key is the one that is read
- `CommandScript.Settings.documentData_eq` — the settings that a document gives
- `CommandScript.Settings.gives_iff` — the sources are asked from the highest to the lowest
-/

namespace CommandScript

namespace Table

variable {α : Type}

theorem lookup_eq_get? (t : Table α) (key : String) : t.lookup key = t.get? key := by
  induction t with
  | nil => rfl
  | cons e t ih =>
    obtain ⟨k, v⟩ := e
    rw [List.lookup_cons, get?, ih]
    by_cases same : k = key
    · simp [same]
    · simp [same, beq_false_of_ne (Ne.symm same)]

theorem lookup_insert (t : Table α) (key other : String) (value : α) :
    (t.insert key value).lookup other = ([(key, value)].lookup other).or (t.lookup other) := by
  rw [lookup_eq_get?, get?_insert, lookup_eq_get?, lookup_eq_get?, get?, get?]
  split <;> rfl

theorem lookup_insertAll (t entries : Table α) (key : String) :
    (t.insertAll entries).lookup key = (entries.reverse.lookup key).or (t.lookup key) := by
  induction entries generalizing t with
  | nil => rfl
  | cons e entries ih =>
    refine (ih (t.insert e.1 e.2)).trans ?_
    rw [List.reverse_cons, List.lookup_append, Option.or_assoc, lookup_insert]

/-- What stands in a table that was written in turn is what was written last. -/
theorem lookup_ofList (entries : Table α) (key : String) :
    (ofList entries).lookup key = entries.reverse.lookup key := by
  rw [ofList, lookup_insertAll]
  exact Option.or_none

theorem isSome_lookup (t : Table α) (key : String) :
    (t.lookup key).isSome ↔ key ∈ t.map (·.1) := by
  rw [Option.isSome_iff_ne_none, Ne, List.lookup_eq_none_iff]
  simp

theorem mem_map_fst_ofList (entries : Table α) (key : String) :
    key ∈ (ofList entries).map (·.1) ↔ key ∈ entries.map (·.1) := by
  rw [← isSome_lookup, lookup_ofList, isSome_lookup, List.map_reverse, List.mem_reverse]

end Table

namespace Settings

open Text

/-! ### The first and the last item with a property -/

section Items

variable {α : Type} {p : α → Prop} {x y : α} {xs : List α}

/-- An item of a list that has a property which no item before it has. -/
def IsFirst (p : α → Prop) (xs : List α) (x : α) : Prop :=
  p x ∧ ∃ before after, xs = before ++ x :: after ∧ ∀ y ∈ before, ¬p y

/-- An item of a list that has a property which no item after it has. -/
def IsLast (p : α → Prop) (xs : List α) (x : α) : Prop :=
  p x ∧ ∃ before after, xs = before ++ x :: after ∧ ∀ y ∈ after, ¬p y

theorem find?_eq_some_iff_isFirst [DecidablePred p] :
    xs.find? (fun y => decide (p y)) = some x ↔ IsFirst p xs x := by
  rw [List.find?_eq_some_iff_append, IsFirst]
  simp

theorem isLast_iff_isFirst_reverse : IsLast p xs x ↔ IsFirst p xs.reverse x := by
  refine and_congr_right fun _ => ⟨?_, ?_⟩
  · rintro ⟨before, after, rfl, none⟩
    exact ⟨after.reverse, before.reverse, by simp, fun y mem => none y (List.mem_reverse.1 mem)⟩
  · rintro ⟨before, after, turned, none⟩
    refine ⟨after.reverse, before.reverse, ?_, fun y mem => none y (List.mem_reverse.1 mem)⟩
    rw [← List.reverse_reverse xs, turned]
    simp

theorem lookup_map {β : Type} (key : α → String) (value : α → β) (name : String) :
    (xs.map fun x => (key x, value x)).lookup name =
      (xs.find? fun x => decide (key x = name)).map value := by
  induction xs with
  | nil => rfl
  | cons x xs ih =>
    rw [List.map_cons, List.lookup_cons, List.find?_cons, ih]
    by_cases same : key x = name
    · simp [same]
    · simp [same, beq_false_of_ne (Ne.symm same)]

theorem not_isFirst_nil : ¬IsFirst p [] x := by
  rintro ⟨-, before, after, empty, -⟩
  simp at empty

theorem isFirst_cons : IsFirst p (y :: xs) x ↔ p y ∧ x = y ∨ ¬p y ∧ IsFirst p xs x := by
  constructor
  · rintro ⟨holds, before | ⟨z, before⟩, after, same, none⟩
    · obtain ⟨rfl, -⟩ := List.cons.inj same
      exact .inl ⟨holds, rfl⟩
    · obtain ⟨rfl, rfl⟩ := List.cons.inj same
      rw [List.forall_mem_cons] at none
      exact .inr ⟨none.1, holds, before, after, rfl, none.2⟩
  · rintro (⟨holds, rfl⟩ | ⟨fails, holds, before, after, rfl, none⟩)
    · exact ⟨holds, [], xs, rfl, List.forall_mem_nil _⟩
    · exact ⟨holds, y :: before, after, rfl, List.forall_mem_cons.2 ⟨fails, none⟩⟩

end Items

variable {arguments : List (String × Value)} {environment : List (String × String)}
  {document : Value} {given : List (Value × Value)} {named : List (String × Value)}
  {search : Search} {field path : String} {v : Value}

/-! ### Arguments -/

/-- An argument counts for a setting whatever the letter case of its name is. -/
def ArgumentGives (arguments : List (String × Value)) (field : String) (v : Value) : Prop :=
  ∃ name, IsFirst (fun a => lowered a.1 = field) arguments (name, v)

theorem argumentGives_iff :
    ArgumentGives arguments field v ↔ argument? arguments field = some v := by
  rw [argument?, Option.map_eq_some_iff, ArgumentGives]
  constructor
  · rintro ⟨name, first⟩
    exact ⟨(name, v), find?_eq_some_iff_isFirst.2 first, rfl⟩
  · rintro ⟨⟨name, v⟩, found, rfl⟩
    exact ⟨name, find?_eq_some_iff_isFirst.1 found⟩

/-! ### The environment -/

namespace Search

/-- Whether an entry of an environment is looked at. -/
def Heeds (search : Search) (e : String × String) : Prop :=
  search.skipsEmpty = true → e.2 ≠ ""

/-- Whether an entry of an environment is one of a setting. -/
def Counts (search : Search) (field : String) (e : String × String) : Prop :=
  search.Heeds e ∧ search.spelled e.1 = search.spelled (search.start ++ field)

/-- Whether an environment has an entry of its own for a part of a setting. -/
def NamesPart (search : Search) (environment : List (String × String)) (field : String) : Prop :=
  ∃ separator, search.separator? = some separator ∧ ∃ e ∈ environment, search.Heeds e ∧
    (search.spelled (search.start ++ field) ++ separator).toList <+: (search.spelled e.1).toList

instance (search : Search) (e : String × String) : Decidable (search.Heeds e) :=
  inferInstanceAs (Decidable (_ → _))

instance (search : Search) (field : String) (e : String × String) :
    Decidable (search.Counts field e) :=
  inferInstanceAs (Decidable (_ ∧ _))

theorem entries_eq (search : Search) (environment : List (String × String)) :
    search.entries environment =
      (environment.reverse.filter fun e => decide (search.Heeds e)).map
        fun e => (search.spelled e.1, e.2) := by
  have heeds (e : String × String) :
      (!(search.skipsEmpty && e.2 == "")) = decide (search.Heeds e) := by
    by_cases empty : e.2 = "" <;> cases h : search.skipsEmpty <;> simp [Heeds, h, empty]
  simp only [entries, heeds, List.filter_reverse, List.map_reverse]

theorem value?_eq (search : Search) (environment : List (String × String)) (field : String) :
    search.value? environment field =
      (environment.reverse.find? fun e => decide (search.Counts field e)).map
        fun e => search.valueOf e.2 := by
  have counts (e : String × String) : decide (search.Counts field e) =
      decide (search.Heeds e ∧ search.spelled e.1 = search.spelled (search.start ++ field)) := rfl
  rw [value?, entries_eq, lookup_map, List.find?_filter, Option.map_map]
  simp only [decide_eq_true_eq, counts]
  rfl

theorem value?_eq_some_iff : search.value? environment field = some v ↔
    ∃ e, IsLast (search.Counts field) environment e ∧ search.valueOf e.2 = v := by
  rw [value?_eq, Option.map_eq_some_iff]
  exact exists_congr fun e => and_congr_left fun _ =>
    find?_eq_some_iff_isFirst.trans isLast_iff_isFirst_reverse.symm

theorem value?_eq_none_iff : search.value? environment field = none ↔
    ∀ e ∈ environment, ¬search.Counts field e := by
  rw [value?_eq, Option.map_eq_none_iff, List.find?_eq_none]
  simp

theorem hasPart_iff : search.hasPart environment field = true ↔
    search.NamesPart environment field := by
  rw [hasPart, entries_eq, NamesPart]
  cases search.separator? with
  | none => simp
  | some separator => simp

end Search

/-- An environment gives the value of the last entry of a setting. Where it has entries for parts of
the names that are left out, it gives a mapping, which is a collection of no use. -/
def EnvironmentGives (search : Search) (environment : List (String × String)) (field : String)
    (v : Value) : Prop :=
  (∃ e, IsLast (search.Counts field) environment e ∧ search.valueOf e.2 = v) ∨
    (∀ e ∈ environment, ¬search.Counts field e) ∧ field = "disabled_functions" ∧
      search.NamesPart environment field ∧ v = .map []

theorem environmentGives_iff : EnvironmentGives (.ofArguments arguments) environment field v ↔
    (⟨arguments, environment, named⟩ : Sources).fromEnvironment? field = some v := by
  rw [EnvironmentGives, ← Search.value?_eq_some_iff, ← Search.value?_eq_none_iff,
    ← Search.hasPart_iff, Sources.fromEnvironment?]
  split
  · rename_i collection
    rw [Search.collection?, Option.or_eq_some_iff, Option.ite_none_right_eq_some, Option.some_inj]
    simp only [collection, true_and, eq_comm]
  · rename_i single
    simp only [single, false_and, and_false, or_false]

/-! ### The document -/

/-- The entries that a document gives to these settings: its own, or those under the name of the
program. Nothing at all stands for no entries. -/
inductive Describes : Value → List (Value × Value) → Prop
  | nothing {document : Value} (empty : document.isTruthy = false) : Describes document []
  | whole {es : List (Value × Value)} (bare : Value.lookupText? es "tgscript" = none) :
      Describes (.map es) es
  | part {es given : List (Value × Value)} {part : Value}
      (found : Value.lookupText? es "tgscript" = some part) (gives : part.entries? = some given) :
      Describes (.map es) given
  | noPart {es : List (Value × Value)} {part : Value}
      (found : Value.lookupText? es "tgscript" = some part) (empty : part.isTruthy = false) :
      Describes (.map es) []

/-- A document gives a setting with the last of its entries whose key spells the name. -/
def DocumentGives (given : List (Value × Value)) (field : String) (v : Value) : Prop :=
  ∃ key, IsLast (fun e => documentName e.1 = .ok field) given (key, v)

/-- Entries with the names of settings in place of their keys. -/
def Named (given : List (Value × Value)) (named : List (String × Value)) : Prop :=
  List.Forall₂ (fun e n => documentName e.1 = .ok n.1 ∧ e.2 = n.2) given named

theorem isTruthy_of_entries? {part : Value} (gives : part.entries? = some given) :
    part.isTruthy = !given.isEmpty := by
  cases part with
  | map es => cases gives; rfl
  | record es => cases gives; rfl
  | _ => cases gives

theorem documentPart_map (path : String) (es : List (Value × Value)) :
    documentPart path (.map es) = .ok ((Value.lookupText? es "tgscript").getD (.map es)) := by
  cases es <;> rfl

theorem documentData_of_part {part : Value} (found : documentPart path document = .ok part) :
    documentData path document =
      if !part.isTruthy then .ok []
      else match part.entries? with
        | none => .error (.noEntries part.fullTypeName)
        | some es =>
          (es.mapM fun (e : Value × Value) => do return (← documentName e.1, e.2)).map
            Table.ofList := by
  rw [documentData, found]
  show (if !part.isTruthy then _ else _) = _
  split
  · rfl
  · cases part.entries? <;> rfl

theorem documentData_of_entries? {part : Value} (found : documentPart path document = .ok part)
    (gives : part.entries? = some given) :
    documentData path document =
      (given.mapM fun (e : Value × Value) => do return (← documentName e.1, e.2)).map
        Table.ofList := by
  rw [documentData_of_part found, isTruthy_of_entries? gives, gives]
  cases given <;> rfl

theorem documentData_of_not_isTruthy {part : Value}
    (found : documentPart path document = .ok part) (empty : part.isTruthy = false) :
    documentData path document = .ok [] := by
  rw [documentData_of_part found, empty]
  rfl

/-- A document gives its entries in turn, under the names that their keys spell. -/
theorem documentData_eq (describes : Describes document given) :
    documentData path document =
      (given.mapM fun (e : Value × Value) => do return (← documentName e.1, e.2)).map
        Table.ofList := by
  cases describes with
  | nothing empty =>
    have found : documentPart path document = .ok (.map []) := by
      unfold documentPart
      rw [empty]
      rfl
    exact documentData_of_entries? found rfl
  | whole bare =>
    refine documentData_of_entries? (documentPart_map path _) ?_
    rw [bare]
    rfl
  | @part es _ part found gives =>
    refine documentData_of_entries? (documentPart_map path es) ?_
    rw [found]
    exact gives
  | @noPart es part found empty =>
    refine documentData_of_not_isTruthy (documentPart_map path es) ?_
    rw [found]
    exact empty

theorem mapM_eq_ok_iff {ε α β : Type} {f : α → Except ε β} {xs : List α} {ys : List β} :
    xs.mapM f = .ok ys ↔ List.Forall₂ (fun x y => f x = .ok y) xs ys := by
  induction xs generalizing ys with
  | nil => cases ys <;> simp [pure, Except.pure]
  | cons x xs ih =>
    rw [List.mapM_cons, List.forall₂_cons_left_iff]
    simp only [← ih]
    cases f x with
    | error e => simp [bind, Except.bind]
    | ok y =>
      cases xs.mapM f with
      | error e => simp [bind, Except.bind]
      | ok rest => simp [bind, Except.bind, pure, Except.pure, eq_comm]

theorem exists_of_mapM_eq_error {ε α β : Type} {f : α → Except ε β} {xs : List α} {e : ε}
    (fails : xs.mapM f = .error e) : ∃ x ∈ xs, f x = .error e := by
  induction xs with
  | nil => cases fails
  | cons x xs ih =>
    rw [List.mapM_cons] at fails
    cases first : f x with
    | error e' =>
      rw [first] at fails
      cases fails
      exact ⟨x, List.mem_cons_self, first⟩
    | ok y =>
      cases rest : xs.mapM f with
      | error e' =>
        rw [first, rest] at fails
        cases fails
        obtain ⟨x', mem, fails'⟩ := ih rest
        exact ⟨x', List.mem_cons_of_mem _ mem, fails'⟩
      | ok ys =>
        rw [first, rest] at fails
        cases fails

theorem named_iff : Named given named ↔
    (given.mapM fun (e : Value × Value) => do return (← documentName e.1, e.2)) = .ok named := by
  have entry (e : Value × Value) (n : String × Value) :
      (documentName e.1 = .ok n.1 ∧ e.2 = n.2) ↔
        (do return (← documentName e.1, e.2)) = Except.ok n := by
    cases documentName e.1 with
    | error _ => simp [bind, Except.bind]
    | ok name => simp [bind, Except.bind, pure, Except.pure, Prod.ext_iff]
  simp only [mapM_eq_ok_iff, Named, entry]

theorem documentData_eq_ok_iff {data : List (String × Value)}
    (describes : Describes document given) :
    documentData path document = .ok data ↔
      ∃ named, Named given named ∧ data = Table.ofList named := by
  rw [documentData_eq describes]
  simp only [named_iff]
  cases given.mapM fun (e : Value × Value) => do return (← documentName e.1, e.2) with
  | error e => simp [Except.map]
  | ok named => simp [Except.map, eq_comm]

theorem documentGives_iff (names : Named given named) :
    DocumentGives given field v ↔ (Table.ofList named).lookup field = some v := by
  have first {es : List (Value × Value)} {ns : List (String × Value)} (names : Named es ns) :
      (∃ key, IsFirst (fun e => documentName e.1 = .ok field) es (key, v)) ↔
        ns.lookup field = some v := by
    induction names with
    | nil => simp [not_isFirst_nil]
    | @cons e n es ns named _ ih =>
      obtain ⟨key, w⟩ := e
      obtain ⟨name, w'⟩ := n
      obtain ⟨spells, same⟩ := named
      dsimp only at spells same
      subst same
      simp only [isFirst_cons, List.lookup_cons, spells, Except.ok.injEq, Prod.mk.injEq]
      by_cases here : name = field
      · simp [here, eq_comm]
      · simpa [here, beq_false_of_ne (Ne.symm here)] using ih
  rw [Table.lookup_ofList, ← first (List.forall₂_reverse_iff.2 names)]
  exact exists_congr fun key => isLast_iff_isFirst_reverse

/-! ### The sources together -/

/-- The value of the highest of three sources that gives one. -/
inductive Highest (first second third : Value → Prop) : Option Value → Prop
  | first {v : Value} (gives : first v) : Highest first second third (some v)
  | second {v : Value} (noFirst : ∀ v, ¬first v) (gives : second v) :
      Highest first second third (some v)
  | third {v : Value} (noFirst : ∀ v, ¬first v) (noSecond : ∀ v, ¬second v) (gives : third v) :
      Highest first second third (some v)
  | none (noFirst : ∀ v, ¬first v) (noSecond : ∀ v, ¬second v) (noThird : ∀ v, ¬third v) :
      Highest first second third none

theorem highest_iff {first second third : Value → Prop} {a b c answer : Option Value}
    (gives : ∀ v, first v ↔ a = some v) (gives' : ∀ v, second v ↔ b = some v)
    (gives'' : ∀ v, third v ↔ c = some v) :
    Highest first second third answer ↔ a.or (b.or c) = answer := by
  constructor
  · rintro (here | ⟨noFirst, here⟩ | ⟨noFirst, noSecond, here⟩ | ⟨noFirst, noSecond, noThird⟩)
    all_goals simp_all [← Option.eq_none_iff_forall_ne_some]
  · rintro rfl
    obtain none | v := a
    · obtain none | v := b
      · obtain none | v := c
        · exact .none (by simp [gives]) (by simp [gives']) (by simp [gives''])
        · exact .third (by simp [gives]) (by simp [gives']) ((gives'' v).2 rfl)
      · exact .second (by simp [gives]) ((gives' v).2 rfl)
    · exact .first ((gives v).2 rfl)

/-- What is given for a setting: arguments come before the environment, and that before a
document. -/
def Gives (arguments : List (String × Value)) (environment : List (String × String))
    (given : List (Value × Value)) (field : String) : Option Value → Prop :=
  Highest (ArgumentGives arguments field)
    (EnvironmentGives (.ofArguments arguments) environment field) (DocumentGives given field)

/-- The sources are asked from the highest to the lowest. -/
theorem gives_iff (names : Named given named) {answer : Option Value} :
    Gives arguments environment given field answer ↔
      (⟨arguments, environment, Table.ofList named⟩ : Sources).value? field = answer :=
  highest_iff (fun _ => argumentGives_iff) (fun _ => environmentGives_iff)
    fun _ => documentGives_iff names

end Settings

end CommandScript
