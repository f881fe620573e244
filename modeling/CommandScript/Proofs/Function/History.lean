import Mathlib.Logic.Relation
import CommandScript.Proofs.Function.Counterparts

/-!
# Histories of registries

Registries come about from a single one: functions are registered, replaced and taken away in any
of them, and new ones are laid over them, in any order. Whatever is done, and whether it is refused
halfway or not, comes down to steps of four kinds at one registry.

## Main definitions

- `CommandScript.Registries.Step` — what a change does to a registry, one function at a time
- `CommandScript.Registries.Operation` — what may be done to registries
- `CommandScript.Registries.History` — registries that come about by operations

## Main results

- `CommandScript.Registries.apply_steps` — a change is a sequence of such steps
- `CommandScript.Registries.after_induction` — what every step keeps is kept by every operation
-/

namespace CommandScript

theorem Registry.accept_eq_ok {r : Registry} {f : Descriptor Callback} {key : String}
    (accepted : r.accept f = .ok key) : key = f.key := by
  unfold accept at accepted
  split at accepted
  · cases accepted
  · split at accepted
    · exact (Except.ok.inj accepted).symm
    · split at accepted
      · cases accepted
      · exact (Except.ok.inj accepted).symm
      · cases accepted
      · cases accepted

namespace Registries

variable {rs rs' : Registries} {h : Handle} {d : Draft Callback} {f : Descriptor Callback}
  {key : String} {notices : List Notice}

/-! ### Steps -/

/-- What a change does to a registry, one function at a time. -/
inductive Step (rs : Registries) (h : Handle) : Change Callback → Registries → Prop where
  /-- A function that the registry accepts is stored under a key that could not be seen. -/
  | added {ds : List (Draft Callback)} {d f} (given : d ∈ ds) (described : d.toDescriptor = .ok f)
      (accepted : (rs.registry h).accept f = .ok f.key) (unseen : rs.find? h f.key = none) :
      Step rs h (.add ds) (rs.modify h (·.insert f.key f))
  | ensured {ds : List (Draft Callback)} {d f} (given : d ∈ ds)
      (described : d.toDescriptor = .ok f) (accepted : (rs.registry h).accept f = .ok f.key) :
      Step rs h (.ensure ds) (rs.modify h (·.insert f.key f))
  /-- A function is stored in the place of another one, and nothing else is asked of it. -/
  | replaced {ds : List (Draft Callback)} {d f} (given : d ∈ ds)
      (described : d.toDescriptor = .ok f) (there : (rs.held? h f.key).isSome) :
      Step rs h (.edit ds) (rs.modify h (·.insert f.key f))
  | removed {ns : List Value} {n key} (given : n ∈ ns) (named : FunctionName.keyOf n = .ok key)
      (there : (rs.held? h key).isSome) : Step rs h (.remove ns) (rs.modify h (·.erase key))

/-- A composition that succeeds is made of parts that do. -/
theorem exists_of_bind_eq_ok {α β : Type} {x : Except Failure α} {k : α → Except Failure β} {b : β}
    (made : (x >>= k) = .ok b) : ∃ a, x = .ok a ∧ k a = .ok b := by
  cases x with
  | error e => cases made
  | ok a => exact ⟨a, rfl, made⟩

theorem accept_eq_ok (accepted : rs.accept h d = .ok (key, f)) :
    d.toDescriptor = .ok f ∧ key = f.key ∧ (rs.registry h).accept f = .ok f.key := by
  unfold accept at accepted
  cases described : d.toDescriptor with
  | error e => simp [described] at accepted
  | ok g =>
    cases keyed : (rs.registry h).accept g with
    | error e => simp [described, keyed, Except.map] at accepted
    | ok k =>
      simp only [described, keyed, Except.map, Except.ok.injEq, Prod.mk.injEq] at accepted
      obtain ⟨rfl, rfl⟩ := accepted
      obtain rfl := Registry.accept_eq_ok keyed
      exact ⟨rfl, rfl, keyed⟩

theorem step_add {ds : List (Draft Callback)} (given : d ∈ ds)
    (made : add h rs d = .ok (rs', notices)) : Step rs h (.add ds) rs' := by
  obtain ⟨⟨key, f⟩, accepted, made⟩ := exists_of_bind_eq_ok made
  obtain ⟨described, rfl, keyed⟩ := accept_eq_ok accepted
  cases owner : rs.owner? h f.key with
  | some a => simp [owner, throw, throwThe, MonadExceptOf.throw] at made
  | none =>
    have unseen : rs.find? h f.key = none := by
      simpa [owner] using (isSome_owner? rs h f.key).symm
    simp only [owner, pure, Except.pure, Except.ok.injEq, Prod.mk.injEq] at made
    obtain ⟨rfl, -⟩ := made
    exact .added given described keyed unseen

theorem step_ensure {ds : List (Draft Callback)} (given : d ∈ ds)
    (made : ensure h rs d = .ok (rs', notices)) : Step rs h (.ensure ds) rs' := by
  obtain ⟨⟨key, f⟩, accepted, made⟩ := exists_of_bind_eq_ok made
  obtain ⟨described, rfl, keyed⟩ := accept_eq_ok accepted
  simp only [pure, Except.pure, Except.ok.injEq, Prod.mk.injEq] at made
  obtain ⟨rfl, -⟩ := made
  exact .ensured given described keyed

theorem step_edit {ds : List (Draft Callback)} (given : d ∈ ds)
    (made : edit h rs d = .ok (rs', notices)) : Step rs h (.edit ds) rs' := by
  unfold edit at made
  cases described : d.toDescriptor with
  | error e => simp [described] at made
  | ok f =>
    simp only [described] at made
    split at made
    · next there =>
      simp only [Except.ok.injEq, Prod.mk.injEq] at made
      obtain ⟨rfl, -⟩ := made
      exact .replaced given described there
    · cases made

theorem step_remove {ns : List Value} {n : Value} (given : n ∈ ns)
    (made : remove h rs n = .ok (rs', notices)) : Step rs h (.remove ns) rs' := by
  obtain ⟨key, named, made⟩ := exists_of_bind_eq_ok made
  split at made
  · next there =>
    simp only [pure, Except.pure, Except.ok.injEq, Prod.mk.injEq] at made
    obtain ⟨rfl, -⟩ := made
    exact .removed given named there
  · cases made

theorem entries_modify (rs : Registries) (h : Handle) (g) (a : Handle) :
    (rs.modify h g).entries a = if a = h ∧ h < rs.next then g (rs.entries h) else rs.entries a := by
  rw [entries_eq, entries_eq, entries_eq, registry_modify]
  split
  · rfl
  · rfl

theorem Step.extends {c : Change Callback} (step : Step rs h c rs') : Extends rs rs' := by
  cases step <;> exact extends_modify rs h _

theorem Step.next_eq {c : Change Callback} (step : Step rs h c rs') : rs'.next = rs.next := by
  cases step <;> exact next_modify rs h _

open Relation (ReflTransGen)

/-- Changes that are made one by one go as far as they are not refused. -/
theorem steps_related {α : Type} {R : Registries → Registries → Prop}
    {step : Registries → α → Except Failure (Registries × List Notice)} {as : List α}
    (each : ∀ a ∈ as, ∀ rs rs' notices, step rs a = .ok (rs', notices) → R rs rs') :
    ReflTransGen R rs (steps step rs as).registries := by
  induction as generalizing rs with
  | nil => exact .refl
  | cons a as ih =>
    obtain ⟨first, rest⟩ := List.forall_mem_cons.1 each
    rw [steps]
    cases made : step rs a with
    | error e => exact .refl
    | ok r => exact .head (first rs r.1 r.2 made) (ih rest)

/-- **A change is a sequence of steps**, also where it is refused halfway. -/
theorem apply_steps (rs : Registries) (h : Handle) (c : Change Callback) :
    ReflTransGen (Step · h c) rs (rs.apply h c).registries := by
  cases c with
  | add ds => exact steps_related fun d given _ _ _ made => step_add given made
  | ensure ds => exact steps_related fun d given _ _ _ made => step_ensure given made
  | edit ds =>
    cases ds with
    | nil => exact .refl
    | cons d ds => exact steps_related fun d given _ _ _ made => step_edit given made
  | remove ns =>
    cases ns with
    | nil => exact .refl
    | cons n ns => exact steps_related fun n given _ _ _ made => step_remove given made

/-! ### Operations -/

/-- What may be done to registries. -/
inductive Operation where
  | change (h : Handle) (c : Change Callback)
  | load (h : Handle) (callbacks : Table Callback) (disabled : List String)
  /-- A new registry is laid over another one and holds the given functions. -/
  | layer (base : Handle) (ds : List (Draft Callback))

namespace Operation

/-- The registry to which something is done. -/
def target : Operation → Handle
  | .change h _ => h
  | .load h _ _ => h
  | .layer base _ => base

/-- Whether the functions of a registry may be others afterwards: a registry that is laid over
another one leaves that as it is. -/
def Touches (a : Handle) : Operation → Prop
  | .change h _ => a = h
  | .load h _ _ => a = h
  | .layer _ _ => False

/-- The change that an operation makes. -/
def toChange : Operation → Change Callback
  | .change _ c => c
  | .load _ callbacks disabled => additions (enabled callbacks disabled)
  | .layer _ ds => .ensure ds

/-- The registry that an operation changes. -/
def place (rs : Registries) : Operation → Handle
  | .change h _ => h
  | .load h _ _ => h
  | .layer _ _ => rs.next

end Operation

/-- The registries after an operation, whether it was refused or not. -/
def after (rs : Registries) : Operation → Registries
  | .change h c => (rs.apply h c).registries
  | .load h callbacks disabled => (rs.load h callbacks disabled).registries
  | .layer base ds => (rs.layer base ds).2

/-- A new registry over another one, before anything is registered in it. -/
def layered (rs : Registries) (base : Handle) : Registries :=
  rs.push (rs.child base (rs.registry base).version)

theorem lt_next_layered_iff {a : Handle} (rs : Registries) (base : Handle) :
    a < (rs.layered base).next ↔ a < rs.next ∨ a = rs.next := by
  rw [layered, next_push, Nat.lt_succ_iff_lt_or_eq]

theorem lt_next_layered (rs : Registries) (base : Handle) : rs.next < (rs.layered base).next :=
  (lt_next_layered_iff rs base).2 (.inr rfl)

theorem registry_layered_of_lt {a : Handle} (old : a < rs.next) (base : Handle) :
    (rs.layered base).registry a = rs.registry a :=
  registry_push_of_lt old _

theorem registry_layered_next (rs : Registries) (base : Handle) :
    (rs.layered base).registry rs.next = rs.child base (rs.registry base).version :=
  registry_push_next rs _

theorem entries_of_le {a : Handle} (absent : rs.next ≤ a) : rs.entries a = [] := by
  have missing : rs.all[a]? = none := List.getElem?_eq_none absent
  rw [entries, missing]
  rfl

theorem entries_layered (rs : Registries) (base a : Handle) :
    (rs.layered base).entries a = rs.entries a := by
  obtain old | rfl | beyond := Nat.lt_trichotomy a rs.next
  · rw [entries_eq, registry_layered_of_lt old, ← entries_eq]
  · rw [entries_of_le (Nat.le_refl _), entries_eq, registry_layered_next]
    rfl
  · have absent : (rs.layered base).next ≤ a := by
      rw [layered, next_push]
      exact beyond
    rw [entries_of_le absent, entries_of_le (Nat.le_of_lt beyond)]

theorem layer_cases (rs : Registries) (base : Handle) (ds : List (Draft Callback)) :
    (∃ e, ((rs.layered base).apply rs.next (.ensure ds)).failure = some e ∧
      rs.layer base ds = (.error e, rs)) ∨
    ((rs.layered base).apply rs.next (.ensure ds)).failure = none ∧
      rs.layer base ds =
        (.ok rs.next, ((rs.layered base).apply rs.next (.ensure ds)).registries) := by
  unfold layer
  dsimp only
  split
  · next unrefused => exact .inr ⟨unrefused, rfl⟩
  · next e refused => exact .inl ⟨e, refused, rfl⟩

/-- **What every step keeps is kept by every operation**, if it is also kept where a new registry is
laid over another one. -/
theorem after_induction {P : Registries → Prop} (op : Operation)
    (layered : ∀ base ds, op = .layer base ds → P rs → P (rs.layered base))
    (step : ∀ rs₁ rs₂, Step rs₁ (op.place rs) op.toChange rs₂ → P rs₁ → P rs₂) (start : P rs) :
    P (rs.after op) := by
  have kept {rs₁ rs₂ : Registries} (run : ReflTransGen (Step · (op.place rs) op.toChange) rs₁ rs₂)
      (first : P rs₁) : P rs₂ := by
    induction run with
    | refl => exact first
    | tail _ last ih => exact step _ _ last ih
  cases op with
  | change h c => exact kept (apply_steps rs h c) start
  | load h callbacks disabled => exact kept (apply_steps rs h _) start
  | layer base ds =>
    obtain ⟨e, -, refused⟩ | ⟨-, made⟩ := layer_cases rs base ds
    · rw [after, refused]
      exact start
    · rw [after, made]
      exact kept (apply_steps _ _ _) (layered base ds rfl start)

/-- An operation leaves every registry where it is. -/
theorem extends_after (rs : Registries) (op : Operation) : Extends rs (rs.after op) := by
  cases op with
  | change h c => exact extends_apply rs h c
  | load h callbacks disabled => exact extends_apply rs h _
  | layer base ds => exact extends_layer rs base ds

/-- The registries that come about by operations from a single one, for a runtime of the given
version and without functions. Each operation is made to a registry that is there. -/
inductive History (version : Value) : List Operation → Registries → Prop where
  | start : History version [] ⟨[.empty version]⟩
  | step {ops : List Operation} {rs : Registries} {op : Operation} (before : History version ops rs)
      (there : op.target < rs.next) : History version (ops ++ [op]) (rs.after op)

/-- A single registry holds nothing at first. -/
theorem entries_single (version : Value) (h : Handle) :
    (⟨[.empty version]⟩ : Registries).entries h = [] := by
  cases h with
  | zero => rfl
  | succ h => exact entries_of_le (Nat.succ_le_succ (Nat.zero_le h))

end Registries

end CommandScript
