import CommandScript.Proofs.Function.Bulk

/-!
# Registering callbacks in bulk

Callbacks are registered under their names, but for those whose names are disabled. A name is
disabled under all its spellings, since names are compared by their keys. What is loaded are the
other callbacks, each of them and in their order, and nothing else can be seen afterwards that could
not be seen before.

## Main definitions

- `CommandScript.Registries.functions` — the functions of callbacks, under their keys

## Main results

- `CommandScript.Registries.names_append` — the names that are seen after functions were added
- `CommandScript.Registries.lookup_append_of_mem`, `lookup_append_of_forall_ne` — what is found then
- `CommandScript.Registries.loaded_add` — each function that is added counts
- `CommandScript.Registries.loads_but_disabled` — disabled names are not loaded
-/

namespace CommandScript

/-- Where no key occurs twice, every entry is found under its key. -/
theorem Table.get?_of_mem {α : Type} {t : Table α} {e : String × α} (distinct : t.keys.Nodup)
    (mem : e ∈ t) : t.get? e.1 = some e.2 := by
  induction t with
  | nil => cases mem
  | cons first rest ih =>
    obtain ⟨new, distinct⟩ := List.nodup_cons.1 distinct
    rw [get?]
    obtain rfl | mem := List.mem_cons.1 mem
    · exact if_pos rfl
    · have other : first.1 ≠ e.1 := fun same => new (List.mem_map.2 ⟨e, mem, same.symm⟩)
      rw [if_neg other, ih distinct mem]

namespace Registries

variable {rs : Registries} {h : Handle} {ds : List (Draft Callback)} {callbacks : Table Callback}
  {disabled : List String}

/-! ### Names -/

theorem eraseDups_of_nodup {keys : List String} (different : keys.Nodup) :
    keys.eraseDups = keys := by
  induction keys with
  | nil => rfl
  | cons k ks ih =>
    obtain ⟨new, different⟩ := List.nodup_cons.1 different
    have others : ks.filter (fun b => !b == k) = ks := by
      refine List.filter_eq_self.2 fun b mem => ?_
      have other : b ≠ k := fun same => new (same ▸ mem)
      simpa using other
    rw [List.eraseDups_cons, others, ih different]

/-- Functions that are added at the end stand behind all others, in the registry and below it. -/
theorem flatMap_keys_append (there : h < rs.next) (apart : h ∉ (rs.registry h).below)
    (new : Table (Descriptor Callback)) :
    ((rs.chain h).reverse.flatMap fun a => ((rs.modify h (· ++ new)).entries a).keys) =
      ((rs.chain h).reverse.flatMap fun a => (rs.entries a).keys) ++ new.keys := by
  have lower : ((rs.registry h).below.reverse.flatMap fun a =>
      ((rs.modify h (· ++ new)).entries a).keys) =
      (rs.registry h).below.reverse.flatMap fun a => (rs.entries a).keys := by
    refine List.flatMap_congr fun a mem => ?_
    have other : a ≠ h := by
      rintro rfl
      exact apart (List.mem_reverse.1 mem)
    rw [entries_modify, if_neg fun both => other both.1]
  have own : ((rs.modify h (· ++ new)).entries h).keys = (rs.entries h).keys ++ new.keys := by
    rw [entries_modify_self there]
    exact List.map_append
  rw [chain_eq, List.reverse_cons, List.flatMap_append, List.flatMap_append, lower,
    List.flatMap_singleton, List.flatMap_singleton, own, List.append_assoc]

/-- **The names that are seen after functions were added** under keys that could not be seen: the
names that were seen, and after them the keys in order. -/
theorem names_append {new : Table (Descriptor Callback)} (there : h < rs.next)
    (apart : h ∉ (rs.registry h).below) (unseen : ∀ e ∈ new, rs.find? h e.1 = none)
    (different : new.keys.Nodup) :
    (rs.modify h (· ++ new)).names h = rs.names h ++ new.keys := by
  have chain : (rs.modify h (· ++ new)).chain h = rs.chain h :=
    (extends_modify rs h (· ++ new)).chain_eq there
  have kept : new.keys.removeAll ((rs.chain h).reverse.flatMap fun a => (rs.entries a).keys) =
      new.keys := by
    refine List.filter_eq_self.2 fun key mem => ?_
    have hidden : key ∉ rs.names h := by
      obtain ⟨e, there, rfl⟩ := List.mem_map.1 mem
      rw [mem_names_iff, unseen e there]
      exact Bool.false_ne_true
    rw [names, List.mem_eraseDups] at hidden
    simpa using hidden
  rw [names, chain, flatMap_keys_append there apart, List.eraseDups_append, kept,
    eraseDups_of_nodup different]
  rfl

/-! ### Lookups -/

section Lookups

variable {new : Table (Descriptor Callback)} {e : String × Descriptor Callback} {name : Value}
  (there : h < rs.next) (unseen : ∀ e ∈ new, rs.find? h e.1 = none)

include there unseen

/-- A function that was added under a key that could not be seen is found by its name. -/
theorem lookup_append_of_mem (different : new.keys.Nodup) (mem : e ∈ new)
    (spelled : FunctionName.keyOf name = .ok e.1) :
    (rs.modify h (· ++ new)).lookup h name = .ok (some e.2) := by
  have found := find?_append there unseen (List.nil_append _).symm List.not_mem_nil e.1
  rw [lookup_eq spelled, found, unseen e mem, Table.get?_of_mem different mem]
  rfl

/-- All other names are looked up as before. -/
theorem lookup_append_of_forall_ne (other : ∀ e ∈ new, FunctionName.keyOf name ≠ .ok e.1) :
    (rs.modify h (· ++ new)).lookup h name = rs.lookup h name := by
  cases spelled : FunctionName.keyOf name with
  | error e =>
    rw [lookup, lookup, spelled]
    rfl
  | ok key =>
    have absent : new.get? key = none := by
      rw [Table.get?_eq_none_iff]
      intro mem
      obtain ⟨e, here, rfl⟩ := List.mem_map.1 mem
      exact other e here spelled
    have found := find?_append there unseen (List.nil_append _).symm List.not_mem_nil key
    rw [lookup_eq spelled, lookup_eq spelled, found, absent, Option.or_none]

end Lookups

/-! ### Counting -/

theorem length_notices_steps {α : Type}
    {step : Registries → α → Except Failure (Registries × List Notice)}
    (single : ∀ rs a r, step rs a = .ok r → r.2.length = 1) {as : List α}
    (unrefused : (steps step rs as).failure = none) :
    (steps step rs as).notices.length = as.length := by
  induction as generalizing rs with
  | nil => rfl
  | cons a as ih =>
    rw [steps] at unrefused ⊢
    cases made : step rs a with
    | error e =>
      rw [made] at unrefused
      cases unrefused
    | ok r =>
      rw [made] at unrefused
      dsimp only at unrefused ⊢
      rw [List.length_append, single rs a r made, ih unrefused, List.length_cons, Nat.add_comm]

/-- Adding a function is told once. -/
theorem length_notices_add (rs : Registries) (d : Draft Callback)
    (r : Registries × List Notice) (added : add h rs d = .ok r) : r.2.length = 1 := by
  obtain ⟨⟨key, f⟩, -, registered⟩ := exists_of_bind_eq_ok added
  dsimp only at registered
  split at registered
  · cases registered
  · cases registered
    rfl

/-- **Each function that is added counts**, if none is refused. -/
theorem loaded_add (unrefused : (rs.apply h (.add ds)).failure = none) :
    loaded (rs.apply h (.add ds)) = .ok ds.length := by
  rw [loaded, unrefused]
  exact congrArg Except.ok (length_notices_steps length_notices_add unrefused)

/-! ### Loading -/

/-- The functions of callbacks, under the keys of their names. -/
def functions (callbacks : Table Callback) : Table (Descriptor Callback) :=
  callbacks.map fun c => (FunctionName.key c.1, .native c.1 c.2 .null)

/-- The drafts of the functions of callbacks. -/
def drafts (callbacks : Table Callback) : List (Draft Callback) :=
  callbacks.map fun c => .descriptor (.native c.1 c.2 .null)

theorem stored_drafts (callbacks : Table Callback) :
    stored (drafts callbacks) = functions callbacks := by
  rw [stored, drafts, List.filterMap_map]
  show callbacks.filterMap
    (some ∘ fun c => (FunctionName.key c.1, Descriptor.native c.1 c.2 .null)) = _
  rw [List.filterMap_eq_map]
  rfl

theorem keys_functions (callbacks : Table Callback) :
    (functions callbacks).keys = callbacks.map fun c => FunctionName.key c.1 :=
  List.map_map ..

/-- A load adds the functions of the callbacks whose keys are not those of disabled names. -/
theorem load_eq (rs : Registries) (h : Handle) (callbacks : Table Callback)
    (disabled : List String) :
    rs.load h callbacks disabled =
      rs.apply h (.add (drafts (callbacks.filter fun c =>
        ∀ n ∈ disabled, FunctionName.key n ≠ FunctionName.key c.1))) := by
  have kept : enabled callbacks disabled = callbacks.filter fun c =>
      ∀ n ∈ disabled, FunctionName.key n ≠ FunctionName.key c.1 := by
    refine List.filter_congr fun c _ => ?_
    rw [Bool.eq_iff_iff]
    simp
  rw [load, additions, kept]
  rfl

section Adding

variable (there : h < rs.next) (running : (rs.registry h).version.IsVersion)
  (nonnegative : (Value.int 0).compareNumbers? (rs.registry h).version ≠ some .gt)
  (named : ∀ c ∈ callbacks, FunctionName.key c.1 ≠ "")
  (different : (callbacks.map fun c => FunctionName.key c.1).Nodup)
  (unseen : ∀ c ∈ callbacks, rs.find? h (FunctionName.key c.1) = none)

include nonnegative named different unseen

/-- Callbacks under different keys that cannot be seen are no bad items. -/
theorem sound_drafts : Sound (AddBad rs h) (drafts callbacks) := by
  intro before d after split bad
  obtain ⟨front, rest, rfl, rfl, follows⟩ := List.map_eq_append_iff.1 split
  obtain ⟨c, others, rfl, rfl, -⟩ := List.map_eq_cons_iff.1 follows
  have here : c ∈ front ++ c :: others := List.mem_append_right _ List.mem_cons_self
  obtain unnamed | newer | visible | repeated := bad (.native c.1 c.2 .null) rfl
  · exact named c here unnamed
  · exact nonnegative newer
  · have seen : (rs.find? h (FunctionName.key c.1)).isSome = true := visible
    rw [unseen c here] at seen
    cases seen
  · have again : FunctionName.key c.1 ∈ front.map fun c => FunctionName.key c.1 := by
      rw [← keys_functions, ← stored_drafts, Table.keys, keys_stored]
      exact repeated
    rw [List.map_append, List.nodup_append] at different
    exact different.2.2 _ again _ List.mem_cons_self rfl

include there running

/-- So all of them are added. -/
theorem apply_drafts : (rs.apply h (.add (drafts callbacks))).failure = none ∧
    (rs.apply h (.add (drafts callbacks))).registries =
      rs.modify h (· ++ functions callbacks) := by
  have versioned : ∀ d ∈ drafts callbacks, ∀ f, d.toDescriptor = .ok f → f.version.IsVersion := by
    intro d mem f described
    obtain ⟨c, -, rfl⟩ := List.mem_map.1 mem
    cases described
    exact .inl rfl
  have law : StopsAtFirst rs h .add (AddBad rs h) (fun front t => t ++ stored front)
      (drafts callbacks) :=
    (judged_add there running versioned).stopsAtFirst (fun _ _ => rfl) rfl
  have finished := law.finished (sound_drafts nonnegative named different unseen)
  rwa [stored_drafts] at finished

end Adding

/-- **Disabled names are not loaded**, under any spelling. Callbacks have keys that are not empty,
pairwise different and not visible yet, and the runtime is of no version or of none below zero.
Those of them whose keys are not keys of disabled names are then registered, all of them and in
order; how many there are is what the load returns. Every other name, and so every spelling of a
disabled one, is looked up as before. -/
theorem loads_but_disabled (there : h < rs.next) (apart : h ∉ (rs.registry h).below)
    (running : (rs.registry h).version.IsVersion)
    (nonnegative : (Value.int 0).compareNumbers? (rs.registry h).version ≠ some .gt)
    (named : ∀ c ∈ callbacks, FunctionName.key c.1 ≠ "")
    (different : (callbacks.map fun c => FunctionName.key c.1).Nodup)
    (unseen : ∀ c ∈ callbacks, rs.find? h (FunctionName.key c.1) = none)
    (disabled : List String) :
    let kept := callbacks.filter fun c =>
      ∀ n ∈ disabled, FunctionName.key n ≠ FunctionName.key c.1
    let after := rs.load h callbacks disabled
    loaded after = .ok kept.length ∧
      after.registries = rs.modify h (· ++ functions kept) ∧
      after.registries.names h = rs.names h ++ kept.map (fun c => FunctionName.key c.1) ∧
      (∀ c ∈ kept, ∀ name, FunctionName.keyOf name = .ok (FunctionName.key c.1) →
        after.registries.lookup h name = .ok (some (.native c.1 c.2 .null))) ∧
      (∀ name, (∀ c ∈ kept, FunctionName.keyOf name ≠ .ok (FunctionName.key c.1)) →
        after.registries.lookup h name = rs.lookup h name) ∧
      ∀ n ∈ disabled, ∀ name, FunctionName.keyOf name = .ok (FunctionName.key n) →
        after.registries.lookup h name = rs.lookup h name := by
  intro kept after
  have among (c : String × Callback) (mem : c ∈ kept) : c ∈ callbacks := List.mem_of_mem_filter mem
  have differ : (kept.map fun c => FunctionName.key c.1).Nodup :=
    different.sublist (List.filter_sublist.map _)
  have distinct : (functions kept).keys.Nodup := (keys_functions kept).symm ▸ differ
  have hidden : ∀ e ∈ functions kept, rs.find? h e.1 = none :=
    List.forall_mem_map.2 fun c mem => unseen c (among c mem)
  have adds : after = rs.apply h (.add (drafts kept)) := load_eq rs h callbacks disabled
  obtain ⟨unrefused, left⟩ := apply_drafts there running nonnegative
    (fun c mem => named c (among c mem)) differ fun c mem => unseen c (among c mem)
  have registered : after.registries = rs.modify h (· ++ functions kept) := adds ▸ left
  have elsewhere (name : Value)
      (other : ∀ c ∈ kept, FunctionName.keyOf name ≠ .ok (FunctionName.key c.1)) :
      after.registries.lookup h name = rs.lookup h name := by
    rw [registered]
    exact lookup_append_of_forall_ne there hidden (List.forall_mem_map.2 other)
  refine ⟨?_, registered, ?_, ?_, elsewhere, ?_⟩
  · rw [adds, loaded_add unrefused, drafts, List.length_map]
  · rw [registered, ← keys_functions]
    exact names_append there apart hidden distinct
  · intro c mem name spelled
    rw [registered]
    exact lookup_append_of_mem there hidden distinct (List.mem_map_of_mem mem) spelled
  · intro n mem name spelled
    refine elsewhere name fun c here same => ?_
    have other := of_decide_eq_true (List.mem_filter.1 here).2 n mem
    exact other (Except.ok.inj (spelled.symm.trans same))

/-- Of two callbacks, the one whose name is disabled under another spelling is not loaded. -/
theorem loads_but_disabled_other :
    let callbacks : Table Callback :=
      [("$g", .of (.done (.value .null))), ("H", .of (.done (.value .null)))]
    0 < taken.next ∧ 0 ∉ (taken.registry 0).below ∧ (taken.registry 0).version.IsVersion ∧
      (Value.int 0).compareNumbers? (taken.registry 0).version ≠ some .gt ∧
      (∀ c ∈ callbacks, FunctionName.key c.1 ≠ "") ∧
      (callbacks.map fun c => FunctionName.key c.1).Nodup ∧
      (∀ c ∈ callbacks, taken.find? 0 (FunctionName.key c.1) = none) ∧
      loaded (taken.load 0 callbacks ["$G"]) = .ok 1 ∧
      (taken.load 0 callbacks ["$G"]).registries.names 0 = ["f", "h"] ∧
      (taken.load 0 callbacks ["$G"]).registries.lookup 0 (.text "g") = .ok none := by
  intro callbacks
  have there : 0 < taken.next := Nat.one_pos
  have apart : 0 ∉ (taken.registry 0).below := List.not_mem_nil
  have running : (taken.registry 0).version.IsVersion := .inr rfl
  have nonnegative : (Value.int 0).compareNumbers? (taken.registry 0).version ≠ some .gt := by
    decide +kernel
  have named : ∀ c ∈ callbacks, FunctionName.key c.1 ≠ "" := by decide +kernel
  have different : (callbacks.map fun c => FunctionName.key c.1).Nodup := by decide +kernel
  have unseen : ∀ c ∈ callbacks, taken.find? 0 (FunctionName.key c.1) = none := by
    decide +kernel
  obtain ⟨count, -, names, -, -, hidden⟩ :=
    loads_but_disabled there apart running nonnegative named different unseen ["$G"]
  refine ⟨there, apart, running, nonnegative, named, different, unseen, count, names, ?_⟩
  exact hidden "$G" List.mem_cons_self (.text "g") rfl

end Registries

end CommandScript
