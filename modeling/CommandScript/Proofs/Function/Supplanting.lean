import CommandScript.Proofs.Function.Layers

/-!
# Functions that are supplanted

A function that a registry holds stays there through every change to the registry, also through one
that is refused halfway, unless the change itself stores another function under its key or takes it
away. Registering functions under keys that cannot be seen yet never does so. A registry that is
laid over another one holds, under each of their keys, the last of the functions that it was made
with.

## Main definitions

- `CommandScript.Registries.accepted` — the items of a change that are not refused
- `CommandScript.Registries.supplanted` — the keys whose functions a change replaces or takes away

## Main results

- `CommandScript.Registries.held?_apply` — what is not supplanted by a change stays
- `CommandScript.Registries.held?_layer` — what a new registry holds
-/

namespace CommandScript

namespace Registries

variable {rs rs' : Registries} {h g base : Handle} {key : String} {f : Descriptor Callback}
  {c : Change Callback} {notices : List Notice} {α : Type}
  {step : Registries → α → Except Failure (Registries × List Notice)} {keyOf? : α → Option String}
  {as : List α}

/-- Those of some items whose changes are made: all before the first that is refused. -/
def accepted (step : Registries → α → Except Failure (Registries × List Notice)) :
    Registries → List α → List α
  | _, [] => []
  | rs, a :: as =>
    match step rs a with
    | .error _ => []
    | .ok (rs, _) => a :: accepted step rs as

/-- The key of the function that a draft describes. -/
def draftKey? (d : Draft Callback) : Option String := d.toDescriptor.toOption.map Descriptor.key

/-- The key of a name. -/
def nameKey? (name : Value) : Option String := (FunctionName.keyOf name).toOption

/-- The keys whose functions a change to a registry replaces or takes away. -/
def supplanted (rs : Registries) (h : Handle) : Change Callback → List String
  | .add _ => []
  | .ensure ds => (accepted (ensure h) rs ds).filterMap draftKey?
  | .edit ds => (accepted (edit h) rs ds).filterMap draftKey?
  | .remove ns => (accepted (remove h) rs ns).filterMap nameKey?

theorem mem_of_accepted {a : α} (mem : a ∈ accepted step rs as) : a ∈ as := by
  induction as generalizing rs with
  | nil => exact mem
  | cons b bs ih =>
    rw [accepted] at mem
    cases made : step rs b with
    | error e => simp [made] at mem
    | ok r =>
      simp only [made, List.mem_cons] at mem
      exact List.mem_cons.2 (mem.imp_right ih)

/-! ### Steps -/

/-- A step that can change what a registry holds under a single key only, that of its item. -/
def Keyed (h : Handle) (keyOf? : α → Option String)
    (step : Registries → α → Except Failure (Registries × List Notice)) : Prop :=
  ∀ rs a rs' notices, step rs a = .ok (rs', notices) →
    ∃ own, keyOf? a = some own ∧ ∀ key, key ≠ own → rs'.held? h key = rs.held? h key

theorem held?_modify_of_get? {t : Table (Descriptor Callback) → Table (Descriptor Callback)}
    (same : (t (rs.entries h)).get? key = (rs.entries h).get? key) :
    (rs.modify h t).held? h key = rs.held? h key := by
  rw [held?_modify]
  split
  · exact same
  · rfl

theorem held?_insert_of_ne (ne : key ≠ f.key) :
    (rs.modify h (·.insert f.key f)).held? h key = rs.held? h key :=
  held?_modify_of_get? (by rw [Table.get?_insert, if_neg (Ne.symm ne)])

theorem keyed_ensure : Keyed h draftKey? (ensure h) := by
  intro rs d rs' notices made
  cases step_ensure (List.mem_singleton_self d) made with
  | @ensured _ _ f given described accepted =>
    obtain rfl := List.mem_singleton.1 given
    refine ⟨f.key, ?_, fun key ne => held?_insert_of_ne ne⟩
    rw [draftKey?, described]
    rfl

theorem keyed_edit : Keyed h draftKey? (edit h) := by
  intro rs d rs' notices made
  cases step_edit (List.mem_singleton_self d) made with
  | @replaced _ _ f given described there =>
    obtain rfl := List.mem_singleton.1 given
    refine ⟨f.key, ?_, fun key ne => held?_insert_of_ne ne⟩
    rw [draftKey?, described]
    rfl

theorem keyed_remove : Keyed h nameKey? (remove h) := by
  intro rs n rs' notices made
  cases step_remove (List.mem_singleton_self n) made with
  | @removed _ _ own given named there =>
    obtain rfl := List.mem_singleton.1 given
    refine ⟨own, ?_, fun key ne => held?_modify_of_get? ?_⟩
    · rw [nameKey?, named]
      rfl
    · rw [Table.get?_erase, if_neg (Ne.symm ne)]

/-- What is under a key stays if no item that is accepted has the key. -/
theorem Keyed.held?_steps (keyed : Keyed h keyOf? step)
    (kept : key ∉ (accepted step rs as).filterMap keyOf?) :
    (steps step rs as).registries.held? h key = rs.held? h key := by
  induction as generalizing rs with
  | nil => rfl
  | cons a as ih =>
    rw [accepted] at kept
    rw [steps]
    cases made : step rs a with
    | error e => rfl
    | ok r =>
      obtain ⟨own, given, still⟩ := keyed rs a r.1 r.2 made
      simp only [made, List.filterMap_cons, given, List.mem_cons, not_or] at kept
      exact (ih kept.2).trans (still key kept.1)

theorem find?_of_held? (held : rs.held? h key = some f) : rs.find? h key = some f := by
  rw [find?_eq, chain_eq, List.findSome?_cons, held]

open Relation (ReflTransGen)

/-- Registering functions under keys that cannot be seen yet touches no key that can. -/
theorem held?_add {ds : List (Draft Callback)} (held : rs.held? h key = some f) :
    (rs.apply h (.add ds)).registries.held? h key = some f := by
  have run := apply_steps rs h (.add ds)
  generalize (rs.apply h (.add ds)).registries = rs' at run
  induction run with
  | refl => exact held
  | tail _ last ih =>
    cases last with
    | @added _ _ other given described accepted unseen =>
      have ne : key ≠ other.key := by
        rintro rfl
        cases unseen.symm.trans (find?_of_held? ih)
      rw [held?_insert_of_ne ne]
      exact ih

/-- **A function that is not supplanted stays**, also where a change is refused halfway. -/
theorem held?_apply (held : rs.held? h key = some f) (kept : key ∉ rs.supplanted h c) :
    (rs.apply h c).registries.held? h key = some f := by
  cases c with
  | add ds => exact held?_add held
  | ensure ds => exact (keyed_ensure.held?_steps kept).trans held
  | edit ds =>
    cases ds with
    | nil => exact held
    | cons d ds => exact (keyed_edit.held?_steps kept).trans held
  | remove ns =>
    cases ns with
    | nil => exact held
    | cons n ns => exact (keyed_remove.held?_steps kept).trans held

/-! ### New registries -/

theorem held?_ensured {earlier later : List (Draft Callback)} {d : Draft Callback}
    (there : h < rs.next) (described : d.toDescriptor = .ok f)
    (last : ∀ d' ∈ later, draftKey? d' ≠ some f.key)
    (unrefused : (steps (ensure h) rs (earlier ++ d :: later)).failure = none) :
    (steps (ensure h) rs (earlier ++ d :: later)).registries.held? h f.key = some f := by
  induction earlier generalizing rs with
  | nil =>
    rw [List.nil_append, steps] at unrefused ⊢
    cases made : ensure h rs d with
    | error e =>
      rw [made] at unrefused
      cases unrefused
    | ok r =>
      obtain ⟨rs', notices⟩ := r
      have stored : rs'.held? h f.key = some f := by
        cases step_ensure (List.mem_singleton_self d) made with
        | @ensured _ _ f' given described' accepted =>
          obtain rfl := List.mem_singleton.1 given
          obtain rfl := Except.ok.inj (described.symm.trans described')
          rw [held?_modify, if_pos ⟨rfl, there⟩, Table.get?_insert, if_pos rfl]
      refine (keyed_ensure.held?_steps fun mem => ?_).trans stored
      obtain ⟨d', accepted, own⟩ := List.mem_filterMap.1 mem
      exact last d' (mem_of_accepted accepted) own
  | cons e es ih =>
    rw [List.cons_append, steps] at unrefused ⊢
    cases made : ensure h rs e with
    | error e =>
      rw [made] at unrefused
      cases unrefused
    | ok r =>
      rw [made] at unrefused
      have still : h < r.1.next :=
        ((step_ensure (List.mem_singleton_self e) made).extends h there).1
      exact ih still unrefused

/-- **A registry that is laid over another one holds the last of its functions under each key.** -/
theorem held?_layer {earlier later : List (Draft Callback)} {d : Draft Callback}
    (made : (rs.layer base (earlier ++ d :: later)).1 = .ok g) (described : d.toDescriptor = .ok f)
    (last : ∀ d' ∈ later, draftKey? d' ≠ some f.key) :
    (rs.layer base (earlier ++ d :: later)).2.held? g f.key = some f := by
  obtain ⟨e, -, refused⟩ | ⟨unrefused, layered⟩ := layer_cases rs base (earlier ++ d :: later)
  · rw [refused] at made
    cases made
  · rw [layered] at made ⊢
    obtain rfl := Except.ok.inj made
    exact held?_ensured (lt_next_layered rs base) described last unrefused

end Registries

end CommandScript
