import Mathlib.Data.Set.Card
import CommandScript.Proofs.Function.History
import CommandScript.Proofs.Store

/-!
# Registries over registries

A name is looked up in a registry and then in those below it, up to the first that holds its key.
However registries came about and whatever was done to them, each lies over registries that were
there before it, and every function stands under its own key. All ways of asking a registry then
say the same, and what is done to one registry changes the functions of no other one.

## Main definitions

- `CommandScript.Registries.parent?` — the registry that a registry lies over
- `CommandScript.Registries.Layered` — what every operation on registries keeps
- `CommandScript.Registries.Resolves` — what can be seen from a registry

## Main results

- `CommandScript.Registries.History.layered` — whatever is done to registries, they stay layered
- `CommandScript.Registries.entries_after` — an operation changes the functions of one registry
- `CommandScript.Registries.nearest_resolves` — the nearest function counts, after every history
-/

namespace CommandScript

theorem nodup_eraseDups (keys : List String) : keys.eraseDups.Nodup := by
  cases keys with
  | nil => exact List.nodup_nil
  | cons k ks =>
    rw [List.eraseDups_cons, List.nodup_cons]
    constructor
    · simp
    · exact nodup_eraseDups (ks.filter fun b => !b == k)
termination_by keys.length
decreasing_by exact Nat.lt_succ_of_le (List.length_filter_le _ _)

/-- A name that has a key is a text. -/
theorem FunctionName.keyOf_eq_ok_iff {name : Value} {key : String} :
    keyOf name = .ok key ↔ ∃ s, name.text? = some s ∧ FunctionName.key s = key := by
  cases name <;> simp [keyOf, Draft.nameText, Value.text?]

namespace Registries

variable {rs rs' : Registries} {h a base : Handle} {key : String} {f : Descriptor Callback}
  {c : Change Callback} {version : Value} {ops : List Operation}

/-- The registry that a registry lies over. -/
def parent? (rs : Registries) (h : Handle) : Option Handle := (rs.registry h).below.head?

/-! ### Steps at one registry -/

theorem Step.entries_of_ne (step : Step rs h c rs') (ne : a ≠ h) :
    rs'.entries a = rs.entries a := by
  cases step <;> rw [entries_modify, if_neg fun both => ne both.1]

theorem Extends.chain_eq (grown : Extends rs rs') (old : a < rs.next) :
    rs'.chain a = rs.chain a := by
  rw [Registries.chain_eq, Registries.chain_eq, (grown a old).2.2]

/-! ### What every operation keeps -/

/-- Every registry is one of its own or lies over one that was there before it, and every function
stands under its own key. -/
structure Layered (rs : Registries) : Prop where
  below : ∀ h < rs.next, (rs.registry h).below = [] ∨ ∃ p < h, (rs.registry h).below = rs.chain p
  keyed : ∀ h key f, rs.held? h key = some f → f.key = key

theorem layered_single (version : Value) : Layered ⟨[.empty version]⟩ where
  below := by
    intro h there
    obtain rfl : h = 0 := Nat.lt_one_iff.1 there
    exact .inl rfl
  keyed := by
    intro h key f held
    rw [held?, entries_single] at held
    cases held

theorem Layered.push (sound : Layered rs) (there : base < rs.next) : Layered (rs.layered base) where
  below := by
    have grown : Extends rs (rs.layered base) := extends_push rs _
    intro h known
    obtain old | rfl := (lt_next_layered_iff rs base).1 known
    · obtain alone | ⟨p, lower, below⟩ := sound.below h old
      · exact .inl ((grown h old).2.2.trans alone)
      · refine .inr ⟨p, lower, (grown h old).2.2.trans ?_⟩
        rw [grown.chain_eq (lower.trans old), below]
    · refine .inr ⟨base, there, ?_⟩
      rw [grown.chain_eq there, registry_layered_next]
      rfl
  keyed := by
    intro h key f held
    rw [held?, entries_layered] at held
    exact sound.keyed h key f held

theorem Layered.step (sound : Layered rs) (step : Step rs h c rs') : Layered rs' where
  below := by
    intro b there
    rw [step.next_eq] at there
    obtain alone | ⟨p, lower, below⟩ := sound.below b there
    · exact .inl ((step.extends b there).2.2.trans alone)
    · refine .inr ⟨p, lower, (step.extends b there).2.2.trans ?_⟩
      rw [step.extends.chain_eq (lower.trans there), below]
  keyed := by
    intro b key f held
    have stored (g : Descriptor Callback)
        (held : (rs.modify h (·.insert g.key g)).held? b key = some f) : f.key = key := by
      rw [held?_modify] at held
      split at held
      · rw [Table.get?_insert] at held
        split at held
        · next same => exact Option.some.inj held ▸ same
        · exact sound.keyed h key f held
      · exact sound.keyed b key f held
    cases step with
    | added | ensured | replaced => exact stored _ held
    | removed =>
      rw [held?_modify] at held
      split at held
      · rw [Table.get?_erase] at held
        split at held
        · cases held
        · exact sound.keyed h key f held
      · exact sound.keyed b key f held

/-- **Whatever is done to registries, they stay layered.** -/
theorem History.layered (history : History version ops rs) : Layered rs := by
  induction history with
  | start => exact layered_single version
  | @step ops rs op before there ih =>
    refine after_induction op (fun base ds made sound => ?_) (fun rs₁ rs₂ step sound => ?_) ih
    · subst made
      exact sound.push there
    · exact sound.step step

/-- **An operation changes the functions of no other registry.** -/
theorem entries_after (op : Operation) (old : a < rs.next) (untouched : ¬op.Touches a) :
    (rs.after op).entries a = rs.entries a := by
  have elsewhere : a ≠ op.place rs := by
    cases op with
    | change h c => exact untouched
    | load h callbacks disabled => exact untouched
    | layer base ds => exact Nat.ne_of_lt old
  exact after_induction (P := fun rs' => rs'.entries a = rs.entries a) op
    (fun base _ _ _ => entries_layered rs base a)
    (fun _ _ step same => (step.entries_of_ne elsewhere).trans same) rfl

/-! ### What can be seen -/

/-- What can be seen from a registry, told by what it holds itself and by the registry that it lies
over. -/
structure Resolves (rs : Registries) (h : Handle) : Prop where
  /-- Names are looked up in the registry and then where they are looked up from the one that it
  lies over, which was there before it. -/
  chain : rs.parent? h = none ∧ rs.chain h = [h] ∨
    ∃ p < h, rs.parent? h = some p ∧ rs.chain h = h :: rs.chain p
  /-- A function is found where the nearest registry that holds the key has it. -/
  find : ∀ key f, rs.find? h key = some f ↔ ∃ nearer a farther,
    rs.chain h = nearer ++ a :: farther ∧ rs.held? a key = some f ∧
      ∀ b ∈ nearer, rs.held? b key = none
  missing : ∀ key, rs.find? h key = none ↔ ∀ a ∈ rs.chain h, rs.held? a key = none
  /-- A function is found under its own key. -/
  key : ∀ key f, rs.find? h key = some f → f.key = key
  /-- The names are the keys that can be seen, each once, and those that can be seen from the
  registry below come first. -/
  nodup_names : (rs.names h).Nodup
  mem_names : ∀ key, key ∈ rs.names h ↔ (rs.find? h key).isSome
  names_prefix : ∀ p, rs.parent? h = some p → rs.names p <+: rs.names h
  size : rs.size h = {key | (rs.find? h key).isSome}.ncard
  /-- For every spelling of a name the answers agree. -/
  one : ∀ name key, FunctionName.keyOf name = .ok key →
    rs.lookup h name = .ok (rs.find? h key) ∧ rs.get h name = .ok (.one (rs.find? h key)) ∧
      rs.has h name = .ok (.bool (rs.find? h key).isSome) ∧
      rs.isMember h name = (rs.find? h key).isSome
  /-- And so they do for several names at once. -/
  many : ∀ asked : List (Value × String), (∀ e ∈ asked, FunctionName.keyOf e.1 = .ok e.2) →
    (asked ≠ [] → rs.get h (.list (asked.map (·.1))) =
      .ok (.many (asked.map fun e => rs.find? h e.2))) ∧
    rs.has h (.list (asked.map (·.1))) = .ok (.list (asked.map fun e => Value.ofTable
      [("name", e.1), ("result", .bool (rs.find? h e.2).isSome)]))

theorem Layered.chain_cases (sound : Layered rs) (there : h < rs.next) :
    rs.parent? h = none ∧ rs.chain h = [h] ∨
      ∃ p < h, rs.parent? h = some p ∧ rs.chain h = h :: rs.chain p := by
  rw [parent?, chain_eq]
  obtain alone | ⟨p, lower, below⟩ := sound.below h there
  · rw [alone]
    exact .inl ⟨rfl, rfl⟩
  · rw [below]
    exact .inr ⟨p, lower, by rw [chain_eq]; rfl, rfl⟩

theorem find?_eq_none_iff : rs.find? h key = none ↔ ∀ a ∈ rs.chain h, rs.held? a key = none := by
  rw [find?_eq, List.findSome?_eq_none_iff]

theorem mem_names_iff : key ∈ rs.names h ↔ (rs.find? h key).isSome := by
  have keys (a : Handle) : key ∈ (rs.entries a).keys ↔ rs.held? a key ≠ none := by
    rw [← Table.contains_iff, Table.contains, held?, Option.isSome_iff_ne_none]
  rw [names, List.mem_eraseDups, Option.isSome_iff_ne_none, Ne, find?_eq_none_iff]
  simp [keys]

/-- What can be seen from the registry below comes first. -/
theorem names_prefix {p : Handle} (below : rs.chain h = h :: rs.chain p) :
    rs.names p <+: rs.names h := by
  rw [names, names, below, List.reverse_cons, List.flatMap_append, List.eraseDups_append]
  exact List.prefix_append _ _

theorem size_eq : rs.size h = {key | (rs.find? h key).isSome}.ncard := by
  have seen : {key | (rs.find? h key).isSome} = ((rs.names h).toFinset : Set String) := by
    ext key
    simp [mem_names_iff]
  have once : (rs.names h).Nodup := nodup_eraseDups _
  rw [seen, Set.ncard_coe_finset, List.toFinset_card_of_nodup once, size]

theorem lookup_eq {name : Value} (named : FunctionName.keyOf name = .ok key) :
    rs.lookup h name = .ok (rs.find? h key) := by
  rw [lookup, named]
  rfl

theorem answers_agree {name : Value} (named : FunctionName.keyOf name = .ok key) :
    rs.lookup h name = .ok (rs.find? h key) ∧ rs.get h name = .ok (.one (rs.find? h key)) ∧
      rs.has h name = .ok (.bool (rs.find? h key).isSome) ∧
      rs.isMember h name = (rs.find? h key).isSome := by
  have found : rs.lookup h name = .ok (rs.find? h key) := lookup_eq named
  obtain ⟨s, written, rfl⟩ := FunctionName.keyOf_eq_ok_iff.1 named
  cases name with
  | text t | derivedText t =>
    obtain rfl := Option.some.inj written
    exact ⟨found, congrArg (Except.map Found.one) found, rfl, rfl⟩
  | _ => cases written

theorem mapM_of_forall {α β γ : Type} {act : α → Except Failure β} {es : List (α × γ)}
    {g : α × γ → β} (each : ∀ e ∈ es, act e.1 = .ok (g e)) :
    (es.map (·.1)).mapM act = .ok (es.map g) := by
  induction es with
  | nil => rfl
  | cons e es ih =>
    obtain ⟨first, rest⟩ := List.forall_mem_cons.1 each
    rw [List.map_cons, List.mapM_cons, first, ih rest]
    rfl

theorem answers_agree_list {asked : List (Value × String)}
    (named : ∀ e ∈ asked, FunctionName.keyOf e.1 = .ok e.2) :
    (asked ≠ [] → rs.get h (.list (asked.map (·.1))) =
      .ok (.many (asked.map fun e => rs.find? h e.2))) ∧
    rs.has h (.list (asked.map (·.1))) = .ok (.list (asked.map fun e => Value.ofTable
      [("name", e.1), ("result", .bool (rs.find? h e.2).isSome)])) := by
  have found : (asked.map (·.1)).mapM (rs.lookup h) = .ok (asked.map fun e => rs.find? h e.2) :=
    mapM_of_forall fun e mem => lookup_eq (named e mem)
  constructor
  · intro given
    cases asked with
    | nil => exact absurd rfl given
    | cons e es => exact congrArg (Except.map Found.many) found
  · refine congrArg (Except.map Value.list) (mapM_of_forall fun e mem => ?_)
    rw [lookup_eq (named e mem)]
    rfl

theorem Layered.resolves (sound : Layered rs) (there : h < rs.next) : rs.Resolves h where
  chain := sound.chain_cases there
  find := fun key f => by
    rw [find?_eq, List.findSome?_eq_some_iff]
  missing := fun key => find?_eq_none_iff
  key := fun key f found => by
    rw [find?_eq] at found
    obtain ⟨a, -, held⟩ := List.exists_of_findSome?_eq_some found
    exact sound.keyed a key f held
  nodup_names := nodup_eraseDups _
  mem_names := fun key => mem_names_iff
  names_prefix := fun p lies => by
    obtain ⟨alone, -⟩ | ⟨q, -, parent, below⟩ := sound.chain_cases there
    · cases alone.symm.trans lies
    · obtain rfl := Option.some.inj (parent.symm.trans lies)
      exact names_prefix below
  size := size_eq
  one := fun name key named => answers_agree named
  many := fun asked named => answers_agree_list named

/-- **The nearest function counts, after every history.** However registries were laid over one
another, and whatever was registered, replaced, taken away and loaded in any of them, also where
that was refused halfway: a name stands for the function that the nearest registry in its chain
holds under the key of the name, which is the function's own key, and the names, their number and
all ways of asking say so. Whatever is done next leaves every registry where it is, and the
functions of all registries but the one that it is done to; a new registry lies over the one that
it was made for. -/
theorem nearest_resolves {version : Value} {ops : List Operation} {rs : Registries}
    (history : History version ops rs) :
    (∀ h < rs.next, rs.Resolves h) ∧
    ∀ op : Operation, op.target < rs.next →
      (∀ a < rs.next, (rs.after op).chain a = rs.chain a ∧
        (¬op.Touches a → (rs.after op).entries a = rs.entries a)) ∧
      ∀ base ds h, op = .layer base ds → (rs.layer base ds).1 = .ok h →
        (rs.after op).parent? h = some base := by
  refine ⟨fun h there => history.layered.resolves there, fun op there => ⟨fun a old => ?_, ?_⟩⟩
  · exact ⟨(extends_after rs op).chain_eq old, entries_after op old⟩
  · rintro base ds h rfl made
    obtain ⟨e, -, refused⟩ | ⟨-, layered⟩ := layer_cases rs base ds
    · rw [refused] at made
      cases made
    · rw [layered] at made
      obtain rfl := Except.ok.inj made
      obtain ⟨-, -, below⟩ :=
        extends_apply (rs.layered base) rs.next (.ensure ds) _ (lt_next_layered rs base)
      rw [after, layered, parent?, below, registry_layered_next]
      exact congrArg List.head? (chain_eq rs base)

/-- A function that does nothing. -/
def idle (name : String) : Draft Callback :=
  .descriptor (.native name (.of (.done (.value .null))) .null)

/-- Where a registry holds a function under the key of one below, each is found from its own. -/
theorem nearest_resolves_shadowed :
    ∃ rs, History .null [.change 0 (.add [idle "$f"]), .layer 0 [idle "F"]] rs ∧
      (∀ h < rs.next, rs.Resolves h) ∧ (rs.find? 0 "f").map Descriptor.name = some "$f" ∧
      (rs.find? 1 "f").map Descriptor.name = some "F" := by
  have registered : History .null [.change 0 (.add [idle "$f"])] _ := .step .start (by decide)
  have history : History .null [.change 0 (.add [idle "$f"]), .layer 0 [idle "F"]] _ :=
    .step registered (by decide)
  exact ⟨_, history, (nearest_resolves history).1, rfl, rfl⟩

end Registries

end CommandScript
