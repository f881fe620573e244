import CommandScript.Proofs.Function.Sequences
import CommandScript.Proofs.Function.Versions

/-!
# Changes of several functions

Whether an item of a change is bad can be told from the registry as it was before the change and
from the items in front: whether what the item describes is a function with a key, for a runtime
that is not newer, and whether the key was there or has come or gone with an item in front. What the
registry holds afterwards are the functions that it held, changed by the items before the first bad
one and by no others. Functions that are added never take the place of one that can be seen.

## Main definitions

- `CommandScript.Registry.NeedsNewer` — functions for a newer runtime
- `CommandScript.Registries.AddBad`, `EnsureBad`, `EditBad`, `RemoveBad` — what is bad
- `CommandScript.Registries.stored`, `without` — what the items leave

## Main results

- `CommandScript.Registries.find?_append` — what is found after functions were added
- `CommandScript.Registries.judged_add`, `judged_ensure`, `judged_edit`, `judged_remove` — what the
  single steps do
- `CommandScript.Registries.bulk_stops_at_first` — the law of all four changes
-/

namespace CommandScript

namespace Value

/-- A version: a number, or null where there is none. -/
def IsVersion (v : Value) : Prop := v = .null ∨ v.isNumeric = true

/-- Of two numbers the greater one is the one that is compared as such. -/
theorem exceeds_of_isNumeric {v w : Value} (left : v.isNumeric = true)
    (right : w.isNumeric = true) : v.exceeds w = .ok (v.compareNumbers? w == some .gt) := by
  cases v with
  | bool | int | derivedInt | float =>
    cases w with
    | bool | int | derivedInt | float => rfl
    | _ => cases right
  | _ => cases left

theorem compareNumbers?_null (v : Value) : v.compareNumbers? .null = none := by
  rw [compareNumbers?]
  cases v.place? <;> rfl

end Value

namespace Registry

/-- A function that needs a newer runtime than the given one: no version counts as zero. -/
def NeedsNewer (version : Value) (f : Descriptor Callback) : Prop :=
  (required f).compareNumbers? version = some .gt

theorem isNumeric_required {f : Descriptor Callback} (versioned : f.version.IsVersion) :
    (required f).isNumeric = true := by
  unfold required
  split
  · next given =>
    obtain null | numeric := versioned
    · rw [null] at given
      cases given
    · exact numeric
  · rfl

/-- A registry accepts the functions that have a key and need no newer runtime. -/
theorem accept_cases {r : Registry} {f : Descriptor Callback} (running : r.version.IsVersion)
    (versioned : f.version.IsVersion) :
    (f.key = "" ∨ NeedsNewer r.version f) ∧ (∃ e, r.accept f = .error e) ∨
      ¬(f.key = "" ∨ NeedsNewer r.version f) ∧ r.accept f = .ok f.key := by
  unfold accept
  by_cases unnamed : f.key = ""
  · rw [if_pos unnamed]
    exact .inl ⟨.inl unnamed, _, rfl⟩
  · rw [if_neg unnamed]
    split
    · next unknown =>
      refine .inr ⟨?_, rfl⟩
      rintro (empty | newer)
      · exact unnamed empty
      · rw [NeedsNewer, unknown, Value.compareNumbers?_null] at newer
        cases newer
    · next running' known =>
      have numeric : r.version.isNumeric = true := running.resolve_left known
      rw [Value.exceeds_of_isNumeric (isNumeric_required versioned) numeric]
      by_cases newer : NeedsNewer r.version f
      · left
        rw [NeedsNewer] at newer
        rw [newer]
        refine ⟨.inr newer, ?_⟩
        cases (required f).plainText with
        | error e => exact ⟨_, rfl⟩
        | ok s => exact ⟨_, rfl⟩
      · right
        refine ⟨fun either => either.elim unnamed newer, ?_⟩
        have compared : ((required f).compareNumbers? r.version == some .gt) = false :=
          beq_false_of_ne newer
        rw [compared]

end Registry

namespace Table

variable {α : Type} {t : Table α} {key : String} {value : α}

theorem get?_append (t new : Table α) (key : String) :
    get? (t ++ new) key = (t.get? key).or (new.get? key) := by
  induction t with
  | nil => rfl
  | cons e rest ih =>
    obtain ⟨k, v⟩ := e
    rw [List.cons_append, get?, get?]
    split
    · rfl
    · exact ih

/-- A key that is new is written at the end. -/
theorem insert_of_get?_eq_none (new : t.get? key = none) (value : α) :
    t.insert key value = t ++ [(key, value)] := by
  induction t with
  | nil => rfl
  | cons e rest ih =>
    obtain ⟨k, v⟩ := e
    rw [get?] at new
    split at new
    · cases new
    · next other =>
      rw [insert, if_neg other, ih new]
      rfl

theorem get?_eq_none_iff : t.get? key = none ↔ key ∉ t.keys := by
  rw [← contains_iff, contains, Bool.not_eq_true, Option.isSome_eq_false_iff,
    Option.isNone_iff_eq_none]

theorem contains_insertAll_iff (entries : List (String × α)) :
    (t.insertAll entries).contains key = true ↔
      t.contains key = true ∨ key ∈ entries.map (·.1) := by
  induction entries generalizing t with
  | nil => simp [insertAll]
  | cons e rest ih =>
    have first : (t.insert e.1 e.2).contains key = true ↔ t.contains key = true ∨ key = e.1 := by
      rw [contains, contains, get?_insert]
      split
      · next same => simp [same]
      · next other => simp [Ne.symm other]
    rw [insertAll, List.foldl_cons]
    refine (ih (t := t.insert e.1 e.2)).trans ?_
    rw [first, List.map_cons, List.mem_cons, or_assoc]

theorem erase_eq_filter (t : Table α) (key : String) :
    t.erase key = t.filter fun e => e.1 ≠ key := by
  induction t with
  | nil => rfl
  | cons e rest ih =>
    obtain ⟨k, v⟩ := e
    rw [erase]
    by_cases same : k = key
    · rw [if_pos same, List.filter_cons_of_neg (by simpa using same), ih]
    · rw [if_neg same, List.filter_cons_of_pos (by simpa using same), ih]

theorem contains_filter_iff (p : String → Bool) :
    contains (t.filter fun e => p e.1) key = true ↔ t.contains key = true ∧ p key = true := by
  rw [contains_iff, contains_iff, keys, keys]
  simp only [List.mem_map, List.mem_filter]
  constructor
  · rintro ⟨e, ⟨mem, keeps⟩, rfl⟩
    exact ⟨⟨e, mem, rfl⟩, keeps⟩
  · rintro ⟨⟨e, mem, rfl⟩, keeps⟩
    exact ⟨e, ⟨mem, keeps⟩, rfl⟩

end Table

namespace Registries

variable {rs : Registries} {h a : Handle} {key : String} {f : Descriptor Callback}
  {d : Draft Callback} {ds : List (Draft Callback)} {n : Value} {ns : List Value}

/-- The functions that drafts describe, under their keys. -/
def stored (ds : List (Draft Callback)) : Table (Descriptor Callback) :=
  ds.filterMap fun d => d.toDescriptor.toOption.map fun f => (f.key, f)

theorem stored_append_singleton (described : d.toDescriptor = .ok f) :
    stored (ds ++ [d]) = stored ds ++ [(f.key, f)] := by
  simp [stored, described, Except.toOption]

theorem keys_stored (ds : List (Draft Callback)) :
    (stored ds).map (·.1) = ds.filterMap draftKey? := by
  rw [stored, List.map_filterMap]
  refine List.filterMap_congr fun d _ => ?_
  rw [draftKey?, Option.map_map]
  rfl

theorem version_modify (there : h < rs.next) (g) :
    ((rs.modify h g).registry h).version = (rs.registry h).version :=
  (extends_modify rs h g h there).2.1

/-- Changes to the functions of a registry leave what it accepts. -/
theorem accept_modify_cases (there : h < rs.next) (running : (rs.registry h).version.IsVersion)
    (versioned : f.version.IsVersion) (g) :
    (f.key = "" ∨ Registry.NeedsNewer (rs.registry h).version f) ∧
        (∃ e, ((rs.modify h g).registry h).accept f = .error e) ∨
      ¬(f.key = "" ∨ Registry.NeedsNewer (rs.registry h).version f) ∧
        ((rs.modify h g).registry h).accept f = .ok f.key := by
  rw [← version_modify there g] at running ⊢
  exact Registry.accept_cases running versioned

/-! ### Adding -/

/-- When a draft is bad that is to be added: it describes no function; or the function has no key or
needs a newer runtime, or its key can be seen or is that of a function in front. -/
def AddBad (rs : Registries) (h : Handle) (front : List (Draft Callback)) (d : Draft Callback) :
    Prop :=
  ∀ f, d.toDescriptor = .ok f → f.key = "" ∨ Registry.NeedsNewer (rs.registry h).version f ∨
    (rs.find? h f.key).isSome ∨ f.key ∈ front.filterMap draftKey?

theorem accept_of_described (described : d.toDescriptor = .ok f) :
    rs.accept h d = ((rs.registry h).accept f).map (·, f) := by
  rw [accept, described]

theorem accept_of_undescribed {e : DefinitionError} (undescribed : d.toDescriptor = .error e) :
    rs.accept h d = .error (.definition e) := by
  rw [accept, undescribed]

theorem add_of_described (described : d.toDescriptor = .ok f) :
    add h rs d =
      match (rs.registry h).accept f with
      | .error e => .error e
      | .ok key =>
        if (rs.find? h key).isSome then .error (.registry (.duplicate key))
        else .ok (rs.modify h (·.insert key f), [.registered key]) := by
  rw [add, accept_of_described described]
  cases (rs.registry h).accept f with
  | error e => rfl
  | ok key =>
    dsimp only [Except.map, bind, Except.bind]
    rw [← isSome_owner?]
    cases rs.owner? h key with
    | some b => rfl
    | none => rfl

theorem add_of_undescribed {e : DefinitionError} (undescribed : d.toDescriptor = .error e) :
    add h rs d = .error (.definition e) := by
  rw [add, accept_of_undescribed undescribed]
  rfl

/-- **What is found after functions were added** under keys that could not be seen: what was found
before, and otherwise one of them; also from a registry that lies over the one that got them. -/
theorem find?_append {new : Table (Descriptor Callback)} {near : List Handle} (there : h < rs.next)
    (unseen : ∀ e ∈ new, rs.find? h e.1 = none) (lies : rs.chain a = near ++ rs.chain h)
    (apart : h ∉ near) (key : String) :
    (rs.modify h (· ++ new)).find? a key = (rs.find? a key).or (new.get? key) := by
  have own (b : Handle) : (rs.modify h (· ++ new)).held? b key =
      if b = h then (rs.held? h key).or (new.get? key) else rs.held? b key := by
    rw [held?_modify]
    by_cases here : b = h
    · rw [if_pos ⟨here, there⟩, if_pos here, Table.get?_append]
      rfl
    · rw [if_neg fun both => here both.1, if_neg here]
  have chain (b : Handle) : (rs.modify h (· ++ new)).chain b = rs.chain b := by
    rw [chain_eq, chain_eq, registry_modify]
    split
    · next here => rw [here.1]
    · rfl
  have nearer : near.findSome? ((rs.modify h (· ++ new)).held? · key) =
      near.findSome? (rs.held? · key) := by
    refine findSome?_congr fun b mem => ?_
    have other : b ≠ h := fun here => apart (here ▸ mem_of_consulted mem)
    rw [own, if_neg other]
  have here : (rs.chain h).findSome? ((rs.modify h (· ++ new)).held? · key) =
      ((rs.chain h).findSome? (rs.held? · key)).or (new.get? key) := by
    cases found : new.get? key with
    | none =>
      have same : ((rs.modify h (· ++ new)).held? · key) = (rs.held? · key) := by
        funext b
        rw [own, found, Option.or_none]
        split
        · next here => rw [here]
        · rfl
      rw [same, Option.or_none]
    | some f =>
      -- The key could not be seen, so that it is found in the registry itself.
      have mem : key ∈ new.keys := by
        rw [← Table.contains_iff, Table.contains, found]
        rfl
      obtain ⟨e, there, rfl⟩ := List.mem_map.1 mem
      have hidden := unseen e there
      rw [find?_eq] at hidden
      have first : rs.held? h e.1 = none := by
        rw [chain_eq] at hidden
        exact List.findSome?_eq_none_iff.1 hidden h List.mem_cons_self
      rw [hidden, chain_eq, List.findSome?_cons, own, if_pos rfl, first, found]
      rfl
  rw [find?_eq, find?_eq, chain, lies, List.findSome?_append, List.findSome?_append, nearer, here,
    Option.or_assoc]

theorem unseen_of_sound (sound : Sound (AddBad rs h) ds) {e : String × Descriptor Callback}
    (mem : e ∈ stored ds) : rs.find? h e.1 = none := by
  obtain ⟨d, given, described⟩ := List.mem_filterMap.1 mem
  obtain ⟨before, after, split⟩ := List.append_of_mem given
  obtain ⟨f, here, rfl⟩ := Option.map_eq_some_iff.1 described
  by_contra visible
  refine sound before d after split fun g described => ?_
  rw [described] at here
  obtain rfl := Option.some.inj here
  exact .inr (.inr (.inl (Option.isSome_iff_ne_none.2 visible)))

theorem find?_stored (there : h < rs.next) (sound : Sound (AddBad rs h) ds) (key : String) :
    (rs.modify h (· ++ stored ds)).find? h key = (rs.find? h key).or ((stored ds).get? key) :=
  find?_append there (fun _ mem => unseen_of_sound sound mem) (List.nil_append _).symm
    List.not_mem_nil key

theorem judged_add (there : h < rs.next) (running : (rs.registry h).version.IsVersion)
    (versioned : ∀ d ∈ ds, ∀ f, d.toDescriptor = .ok f → f.version.IsVersion) :
    Judged (add h) rs ds (AddBad rs h) fun front => rs.modify h (· ++ stored front) where
  start := modify_eq_self (List.append_nil _)
  refused := by
    intro front d given sound bad
    cases described : d.toDescriptor with
    | error e => exact ⟨_, add_of_undescribed described⟩
    | ok f =>
      rw [add_of_described described]
      obtain ⟨-, e, refused⟩ | ⟨fit, accepted⟩ :=
        accept_modify_cases there running (versioned d given f described) (· ++ stored front)
      · exact ⟨e, by rw [refused]⟩
      · rw [accepted]
        have seen : ((rs.modify h (· ++ stored front)).find? h f.key).isSome = true := by
          rw [find?_stored there sound, Option.isSome_or, Bool.or_eq_true]
          rw [not_or] at fit
          obtain unnamed | newer | visible | repeated := bad f described
          · exact absurd unnamed fit.1
          · exact absurd newer fit.2
          · exact .inl visible
          · rw [← keys_stored] at repeated
            exact .inr (Table.contains_iff.2 repeated)
        exact ⟨_, if_pos seen⟩
  made := by
    intro front d given sound good
    obtain ⟨f, described, fit⟩ : ∃ f, d.toDescriptor = .ok f ∧
        ¬(f.key = "" ∨ Registry.NeedsNewer (rs.registry h).version f ∨
          (rs.find? h f.key).isSome ∨ f.key ∈ front.filterMap draftKey?) := by
      simpa [AddBad] using good
    rw [add_of_described described]
    obtain ⟨bad, -⟩ | ⟨-, accepted⟩ :=
      accept_modify_cases there running (versioned d given f described) (· ++ stored front)
    · exact absurd (bad.imp_right .inl) fit
    · rw [accepted]
      simp only [not_or] at fit
      obtain ⟨-, -, hidden, single⟩ := fit
      have hidden : rs.find? h f.key = none := by simpa using hidden
      have single : (stored front).get? f.key = none := by
        rw [Table.get?_eq_none_iff, Table.keys, keys_stored]
        exact single
      have unseen : (rs.modify h (· ++ stored front)).find? h f.key = none := by
        rw [find?_stored there sound, hidden, single]
        rfl
      refine ⟨[.registered f.key], (if_neg (by rw [unseen]; exact Bool.false_ne_true)).trans ?_⟩
      have absent : (rs.entries h ++ stored front).get? f.key = none := by
        rw [Table.get?_append, single, Option.or_none]
        rw [find?_eq, chain_eq] at hidden
        exact List.findSome?_eq_none_iff.1 hidden h List.mem_cons_self
      rw [modify_modify, stored_append_singleton described]
      refine congrArg (fun rs => Except.ok (rs, _)) (modify_congr ?_)
      rw [Table.insert_of_get?_eq_none absent, List.append_assoc]

/-! ### Registering in any case -/

/-- When a draft is bad that is to be registered in any case: it describes no function; or the
function has no key or needs a newer runtime. -/
def EnsureBad (rs : Registries) (h : Handle) (_ : List (Draft Callback)) (d : Draft Callback) :
    Prop :=
  ∀ f, d.toDescriptor = .ok f → f.key = "" ∨ Registry.NeedsNewer (rs.registry h).version f

theorem insertAll_stored_append (described : d.toDescriptor = .ok f)
    (t : Table (Descriptor Callback)) :
    t.insertAll (stored (ds ++ [d])) = (t.insertAll (stored ds)).insert f.key f := by
  rw [stored_append_singleton described, Table.insertAll, List.foldl_append]
  rfl

theorem judged_ensure (there : h < rs.next) (running : (rs.registry h).version.IsVersion)
    (versioned : ∀ d ∈ ds, ∀ f, d.toDescriptor = .ok f → f.version.IsVersion) :
    Judged (ensure h) rs ds (EnsureBad rs h) fun front => rs.modify h (·.insertAll (stored front))
    where
  start := modify_eq_self rfl
  refused := by
    intro front d given sound bad
    cases described : d.toDescriptor with
    | error e => exact ⟨.definition e, by rw [ensure, accept_of_undescribed described]; rfl⟩
    | ok f =>
      obtain ⟨-, e, refused⟩ | ⟨fit, -⟩ := accept_modify_cases there running
        (versioned d given f described) (·.insertAll (stored front))
      · exact ⟨e, by rw [ensure, accept_of_described described, refused]; rfl⟩
      · exact absurd (bad f described) fit
  made := by
    intro front d given sound good
    obtain ⟨f, described, fit⟩ : ∃ f, d.toDescriptor = .ok f ∧
        ¬(f.key = "" ∨ Registry.NeedsNewer (rs.registry h).version f) := by
      simpa [EnsureBad] using good
    obtain ⟨bad, -⟩ | ⟨-, accepted⟩ := accept_modify_cases there running
      (versioned d given f described) (·.insertAll (stored front))
    · exact absurd bad fit
    · refine ⟨[], ?_⟩
      rw [ensure, accept_of_described described, accepted]
      refine congrArg (fun rs => Except.ok (rs, _)) ((modify_modify ..).trans (modify_congr ?_))
      rw [insertAll_stored_append described]

/-! ### Replacing -/

/-- When a draft is bad that is to replace a function: it describes no function, or one under whose
key the registry itself holds none. -/
def EditBad (rs : Registries) (h : Handle) (_ : List (Draft Callback)) (d : Draft Callback) :
    Prop :=
  ∀ f, d.toDescriptor = .ok f → rs.held? h f.key = none

theorem entries_modify_self (there : h < rs.next) (g) :
    (rs.modify h g).entries h = g (rs.entries h) := by
  rw [entries_modify, if_pos ⟨rfl, there⟩]

theorem held_of_sound (sound : Sound (EditBad rs h) ds)
    (mem : key ∈ ds.filterMap draftKey?) : (rs.entries h).contains key = true := by
  obtain ⟨d, given, named⟩ := List.mem_filterMap.1 mem
  obtain ⟨before, after, split⟩ := List.append_of_mem given
  refine by_contra fun absent => sound before d after split fun f described => ?_
  rw [draftKey?, described] at named
  obtain rfl := Option.some.inj named
  exact Option.not_isSome_iff_eq_none.1 absent

/-- Replacing functions leaves the keys that a registry holds. -/
theorem contains_edited_iff (there : h < rs.next) (sound : Sound (EditBad rs h) ds) :
    ((rs.modify h (·.insertAll (stored ds))).entries h).contains key = true ↔
      (rs.held? h key).isSome := by
  rw [entries_modify_self there, Table.contains_insertAll_iff, keys_stored]
  exact or_iff_left_of_imp (held_of_sound sound)

theorem edit_of_described (described : d.toDescriptor = .ok f) :
    edit h rs d =
      if (rs.entries h).contains f.key then
        .ok (rs.modify h (·.insert f.key f), [.replaced f.key])
      else .error (.registry (.editUnknown f.key)) := by
  rw [edit, described]

theorem judged_edit (there : h < rs.next) :
    Judged (edit h) rs ds (EditBad rs h) fun front => rs.modify h (·.insertAll (stored front)) where
  start := modify_eq_self rfl
  refused := by
    intro front d given sound bad
    cases described : d.toDescriptor with
    | error e => exact ⟨.definition e, by rw [edit, described]⟩
    | ok f =>
      rw [edit_of_described described]
      refine ⟨_, if_neg fun held => ?_⟩
      rw [contains_edited_iff there sound, bad f described] at held
      cases held
  made := by
    intro front d given sound good
    obtain ⟨f, described, held⟩ : ∃ f, d.toDescriptor = .ok f ∧ ¬rs.held? h f.key = none := by
      simpa [EditBad] using good
    have known := (contains_edited_iff there sound).2 (Option.isSome_iff_ne_none.2 held)
    refine ⟨[.replaced f.key], ?_⟩
    rw [edit_of_described described, if_pos known]
    refine congrArg (fun rs => Except.ok (rs, _)) ((modify_modify ..).trans (modify_congr ?_))
    rw [insertAll_stored_append described]

/-! ### Taking away -/

/-- When a name is bad under which a function is to be taken away: it is no text, or the registry
itself holds no function under its key, or that is taken away under a name in front. -/
def RemoveBad (rs : Registries) (h : Handle) (front : List Value) (n : Value) : Prop :=
  ∀ key, FunctionName.keyOf n = .ok key →
    rs.held? h key = none ∨ key ∈ front.filterMap nameKey?

/-- A table without the entries under the keys of some names. -/
def without (ns : List Value) (t : Table (Descriptor Callback)) : Table (Descriptor Callback) :=
  t.filter fun e => e.1 ∉ ns.filterMap nameKey?

theorem without_append (named : FunctionName.keyOf n = .ok key)
    (t : Table (Descriptor Callback)) : without (ns ++ [n]) t = (without ns t).erase key := by
  rw [Table.erase_eq_filter, without, without, List.filter_filter]
  refine List.filter_congr fun e _ => ?_
  have last : nameKey? n = some key := by
    rw [nameKey?, named]
    rfl
  simp [List.filterMap_append, last, and_comm]

theorem contains_without_iff (there : h < rs.next) :
    ((rs.modify h (without ns)).entries h).contains key = true ↔
      (rs.held? h key).isSome ∧ key ∉ ns.filterMap nameKey? := by
  rw [entries_modify_self there, without]
  refine (Table.contains_filter_iff fun k => k ∉ ns.filterMap nameKey?).trans ?_
  rw [decide_eq_true_iff]
  rfl

theorem remove_of_named (named : FunctionName.keyOf n = .ok key) :
    remove h rs n =
      if (rs.entries h).contains key then .ok (rs.modify h (·.erase key), [.removed key])
      else .error (.registry (.removeUnknown key)) := by
  rw [remove, named]
  rfl

theorem judged_remove (there : h < rs.next) :
    Judged (remove h) rs ns (RemoveBad rs h) fun front => rs.modify h (without front) where
  start := modify_eq_self (List.filter_eq_self.2 fun _ _ => rfl)
  refused := by
    intro front n given sound bad
    cases named : FunctionName.keyOf n with
    | error e => exact ⟨e, by rw [remove, named]; rfl⟩
    | ok key =>
      rw [remove_of_named named]
      refine ⟨_, if_neg fun held => ?_⟩
      obtain ⟨held, kept⟩ := (contains_without_iff there).1 held
      obtain absent | gone := bad key named
      · rw [absent] at held
        cases held
      · exact kept gone
  made := by
    intro front n given sound good
    obtain ⟨key, named, known⟩ : ∃ key, FunctionName.keyOf n = .ok key ∧
        ¬(rs.held? h key = none ∨ key ∈ front.filterMap nameKey?) := by
      simpa [RemoveBad] using good
    rw [not_or] at known
    have held := (contains_without_iff there).2 ⟨Option.isSome_iff_ne_none.2 known.1, known.2⟩
    refine ⟨[.removed key], ?_⟩
    rw [remove_of_named named, if_pos held]
    refine congrArg (fun rs => Except.ok (rs, _)) ((modify_modify ..).trans (modify_congr ?_))
    rw [without_append named]

/-! ### The law -/

/-- **A change of several functions stops at the first bad item**, to a registry over any others.
It acts as the changes of the single items, one after the other, and is refused at an item exactly
if that is the first bad one; the registry then holds what it held, with the functions of the items
in front added at the end, stored, put in place of those under their keys, or taken away. Whatever
could be seen before functions were added is still found as the same function, and besides nothing
but the functions of the items in front is found; also from registries that lie over this one.
A change by which something is to be replaced or taken away, and that names nothing, is refused. -/
theorem bulk_stops_at_first (there : h < rs.next)
    (running : (rs.registry h).version.IsVersion) :
    (∀ ds : List (Draft Callback),
      (∀ d ∈ ds, ∀ f, d.toDescriptor = .ok f → f.version.IsVersion) →
      StopsAtFirst rs h .add (AddBad rs h) (fun front t => t ++ stored front) ds ∧
      StopsAtFirst rs h .ensure (EnsureBad rs h) (fun front t => t.insertAll (stored front)) ds ∧
      ∀ a near, rs.chain a = near ++ rs.chain h → h ∉ near → ∀ key,
        (∀ f, rs.find? a key = some f →
          (rs.apply h (.add ds)).registries.find? a key = some f) ∧
        ∀ front, Sound (AddBad rs h) front → (rs.modify h (· ++ stored front)).find? a key =
          (rs.find? a key).or ((stored front).get? key)) ∧
    (∀ ds ≠ [], StopsAtFirst rs h .edit (EditBad rs h)
      (fun front t => t.insertAll (stored front)) ds) ∧
    (∀ ns ≠ [], StopsAtFirst rs h .remove (RemoveBad rs h) without ns) ∧
    rs.apply h (.edit []) = ⟨rs, [], some (.registry .noName)⟩ ∧
    rs.apply h (.remove []) = ⟨rs, [], some (.registry .noName)⟩ := by
  refine ⟨fun ds versioned => ?_, fun ds given => ?_, fun ns given => ?_, rfl, rfl⟩
  · have adds : StopsAtFirst rs h .add (AddBad rs h) (fun front t => t ++ stored front) ds :=
      (judged_add there running versioned).stopsAtFirst (fun _ _ => rfl) rfl
    have ensures : StopsAtFirst rs h .ensure (EnsureBad rs h)
        (fun front t => t.insertAll (stored front)) ds :=
      (judged_ensure there running versioned).stopsAtFirst (fun _ _ => rfl) rfl
    refine ⟨adds, ensures, fun a near lies apart key => ?_⟩
    have found (front : List (Draft Callback)) (sound : Sound (AddBad rs h) front) :
        (rs.modify h (· ++ stored front)).find? a key =
          (rs.find? a key).or ((stored front).get? key) :=
      find?_append there (fun _ mem => unseen_of_sound sound mem) lies apart key
    refine ⟨fun f before => ?_, found⟩
    obtain ⟨front, sound, left⟩ := adds.exists_sound
    rw [left, found front sound, before]
    rfl
  · obtain ⟨d, ds, rfl⟩ := List.exists_cons_of_ne_nil given
    exact (judged_edit there).stopsAtFirst (fun _ _ => rfl) rfl
  · obtain ⟨n, ns, rfl⟩ := List.exists_cons_of_ne_nil given
    exact (judged_remove there).stopsAtFirst (fun _ _ => rfl) rfl

/-- Registries for version one with a function. -/
def taken : Registries := ⟨[{ Registry.empty (.int 1) with entries := [("f", needing .null)] }]⟩

/-- Where the second of two functions is there already, under another spelling, it is not taken. -/
theorem bulk_stops_at_first_seen :
    0 < taken.next ∧ (taken.registry 0).version.IsVersion ∧
      taken.find? 0 "f" = some (needing .null) ∧
      (taken.apply 0 (.add [idle "$g", idle "F"])).failure.isSome = true ∧
      (taken.apply 0 (.add [idle "$g", idle "F"])).registries.find? 0 "f" =
        some (needing .null) := by
  have versioned : ∀ d ∈ [idle "$g", idle "F"], ∀ f, d.toDescriptor = .ok f →
      f.version.IsVersion := by
    rintro d mem f described
    simp only [List.mem_cons, List.not_mem_nil, or_false] at mem
    obtain rfl | rfl := mem
    · cases described
      exact .inl rfl
    · cases described
      exact .inl rfl
  have there : 0 < taken.next := Nat.one_pos
  have running : (taken.registry 0).version.IsVersion := .inr rfl
  have law := bulk_stops_at_first there running
  obtain ⟨kept, -⟩ := (law.1 _ versioned).2.2 0 [] rfl List.not_mem_nil "f"
  exact ⟨there, running, rfl, by decide +kernel, kept _ rfl⟩

end Registries

end CommandScript
