import Mathlib.Order.Basic
import CommandScript.Proofs.Function.History

/-!
# Functions and the version of the runtime

A registry refuses a function that needs a newer runtime than the one that is running, whether it is
registered, loaded or brought by a registry that is laid over another one. Only where a function is
replaced nothing is asked of the new one. A version that is no number at all is never the greater
one, and so it is not refused either.

## Main definitions

- `CommandScript.Value.AtMost` — when a number is at most another one
- `CommandScript.Registry.Suits` — functions that need no newer runtime
- `CommandScript.Registries.Operation.Replaces` — operations that replace by a function

## Main results

- `CommandScript.Registry.suits_of_accept` — what a registry accepts suits the runtime
- `CommandScript.Registries.bounded_unless_replaced` — whatever is done to registries, functions
  that no one has replaced others by suit the runtime
-/

namespace CommandScript

namespace Value

/-- When a number is at most another one; what is no number is not. -/
def AtMost (v w : Value) : Prop := v.compareNumbers? w = some .lt ∨ v.compareNumbers? w = some .eq

instance (v w : Value) : Decidable (v.AtMost w) := inferInstanceAs (Decidable (_ ∨ _))

/-- Only numbers are compared with numbers. -/
theorem exceeds_number {v w : Value} {b : Bool} (number : w.place?.isSome)
    (compared : v.exceeds w = .ok b) :
    v.isNumeric = true ∧ b = (v.compareNumbers? w == some .gt) := by
  cases w with
  | bool | int | derivedInt | float =>
    cases v <;> simp_all [exceeds, atomExceeds, isNumeric, kind, text?, byteContent?]
  | _ => cases number

theorem eq_nan_of_isNumeric {v : Value} (numeric : v.isNumeric = true) (nowhere : v.place? = none) :
    v = .float .nan := by
  cases v with
  | float x =>
    cases x with
    | nan => rfl
    | finite => cases nowhere
    | infinite s => cases s <;> cases nowhere
  | bool | int | derivedInt => cases nowhere
  | _ => cases numeric

/-- A number that is not the greater one is at most the other, or is no number after all. -/
theorem atMost_of_not_exceeds {v w : Value} (number : w.place?.isSome)
    (compared : v.exceeds w = .ok false) : v.AtMost w ∨ v = .float .nan := by
  obtain ⟨numeric, notGreater⟩ := exceeds_number number compared
  obtain ⟨b, there⟩ := Option.isSome_iff_exists.1 number
  cases here : v.place? with
  | none => exact .inr (eq_nan_of_isNumeric numeric here)
  | some a =>
    have order : v.compareNumbers? w = some (a.compare b) := by rw [compareNumbers?, here, there]
    left
    rw [AtMost, order]
    rw [order] at notGreater
    cases sign : a.compare b with
    | lt => exact .inl rfl
    | eq => exact .inr rfl
    | gt =>
      rw [sign] at notGreater
      cases notGreater

end Value

namespace Registry

/-- A function that needs no newer runtime than the given one: no version counts as zero. -/
def Suits (version : Value) (f : Descriptor Callback) : Prop := (required f).AtMost version

instance (version : Value) (f : Descriptor Callback) : Decidable (Suits version f) :=
  inferInstanceAs (Decidable (Value.AtMost _ _))

/-- **What a registry accepts suits the runtime**, or its version is no number. -/
theorem suits_of_accept {r : Registry} {f : Descriptor Callback} {key : String}
    (number : r.version.place?.isSome) (accepted : r.accept f = .ok key) :
    Suits r.version f ∨ f.version = .float .nan := by
  have compared : (required f).exceeds r.version = .ok false := by
    unfold accept at accepted
    split at accepted
    · cases accepted
    · split at accepted
      · next unknown => rw [unknown] at number; cases number
      · split at accepted
        · cases accepted
        · next same => exact same
        · cases accepted
        · cases accepted
  obtain atMost | nan := Value.atMost_of_not_exceeds number compared
  · exact .inl atMost
  · right
    unfold required at nan
    split at nan
    · exact nan
    · cases nan

end Registry

theorem Table.mem_insert {α : Type} {t : Table α} {key : String} {value : α} {e : String × α}
    (mem : e ∈ t.insert key value) : e.2 = value ∨ e ∈ t := by
  induction t with
  | nil => exact .inl (congrArg Prod.snd (List.mem_singleton.1 mem))
  | cons first rest ih =>
    obtain ⟨k, v⟩ := first
    rw [insert] at mem
    split at mem
    · obtain rfl | later := List.mem_cons.1 mem
      · exact .inl rfl
      · exact .inr (List.mem_cons_of_mem _ later)
    · obtain rfl | later := List.mem_cons.1 mem
      · exact .inr List.mem_cons_self
      · exact (ih later).imp id (List.mem_cons_of_mem _)

theorem Table.mem_of_mem_erase {α : Type} {t : Table α} {key : String} {e : String × α}
    (mem : e ∈ t.erase key) : e ∈ t := by
  induction t with
  | nil => exact mem
  | cons first rest ih =>
    obtain ⟨k, v⟩ := first
    rw [erase] at mem
    split at mem
    · exact List.mem_cons_of_mem _ (ih mem)
    · obtain rfl | later := List.mem_cons.1 mem
      · exact List.mem_cons_self
      · exact List.mem_cons_of_mem _ (ih later)

namespace Registries

open Registry (Suits)

variable {version : Value} {rs rs' : Registries} {ops : List Operation} {h : Handle}
  {c : Change Callback}

/-- Whether a change replaces another function by this one. -/
def Replaces (f : Descriptor Callback) : Change Callback → Prop
  | .edit ds => ∃ d ∈ ds, d.toDescriptor = .ok f
  | _ => False

/-- Registries for a runtime of the given version, all of whose functions meet a condition. -/
structure Holding (version : Value) (P : Descriptor Callback → Prop) (rs : Registries) : Prop where
  versions : ∀ h < rs.next, (rs.registry h).version = version
  entries : ∀ h, ∀ e ∈ rs.entries h, P e.2

theorem Holding.layered {P : Descriptor Callback → Prop} (holding : Holding version P rs)
    {base : Handle} (there : base < rs.next) : Holding version P (rs.layered base) where
  versions := by
    intro h known
    obtain old | rfl := (lt_next_layered_iff rs base).1 known
    · rw [registry_layered_of_lt old]
      exact holding.versions h old
    · rw [registry_layered_next]
      exact holding.versions base there
  entries := by
    intro h e mem
    rw [entries_layered] at mem
    exact holding.entries h e mem

theorem Holding.step {P : Descriptor Callback → Prop} (holding : Holding version P rs)
    (step : Step rs h c rs')
    (accepted : ∀ r f, Registry.accept r f = .ok f.key → r.version = version → P f)
    (replaced : ∀ f, Replaces f c → P f) : Holding version P rs' where
  versions := by
    intro a there
    rw [step.next_eq] at there
    exact (step.extends a there).2.1.trans (holding.versions a there)
  entries := by
    intro a e mem
    have stored (f : Descriptor Callback) (meets : h < rs.next → P f)
        (mem : e ∈ (rs.modify h (·.insert f.key f)).entries a) : P e.2 := by
      rw [entries_modify] at mem
      split at mem
      · next here =>
        obtain same | mem := Table.mem_insert mem
        · exact same ▸ meets here.2
        · exact holding.entries h e mem
      · exact holding.entries a e mem
    cases step with
    | added given described keyed unseen =>
      exact stored _ (fun there => accepted _ _ keyed (holding.versions h there)) mem
    | ensured given described keyed =>
      exact stored _ (fun there => accepted _ _ keyed (holding.versions h there)) mem
    | replaced given described there =>
      exact stored _ (fun _ => replaced _ ⟨_, given, described⟩) mem
    | removed given named there =>
      rw [entries_modify] at mem
      split at mem
      · exact holding.entries h e (Table.mem_of_mem_erase mem)
      · exact holding.entries a e mem

/-- A function that needs no newer runtime, or whose version is no number, or that some operation
has put in the place of another one. -/
def Bounded (version : Value) (ops : List Operation) (f : Descriptor Callback) : Prop :=
  Suits version f ∨ f.version = .float .nan ∨ ∃ op ∈ ops, Replaces f op.toChange

theorem History.bounded (number : version.place?.isSome) (history : History version ops rs) :
    Holding version (Bounded version ops) rs := by
  induction history with
  | start =>
    constructor
    · intro h there
      obtain rfl : h = 0 := Nat.lt_one_iff.1 there
      rfl
    · intro h e mem
      rw [entries_single] at mem
      cases mem
  | @step ops rs op before there ih =>
    have earlier {f : Descriptor Callback} (bounded : Bounded version ops f) :
        Bounded version (ops ++ [op]) f := by
      refine bounded.imp_right (Or.imp_right ?_)
      rintro ⟨o, mem, replaces⟩
      exact ⟨o, List.mem_append_left _ mem, replaces⟩
    -- What the earlier operations account for, one operation more accounts for too.
    have start : Holding version (Bounded version (ops ++ [op])) rs :=
      ⟨ih.versions, fun h e mem => earlier (ih.entries h e mem)⟩
    refine after_induction op (fun base ds made holding => ?_)
      (fun rs₁ rs₂ step holding => ?_) start
    · subst made
      exact holding.layered there
    · refine holding.step step (fun r f accepted same => ?_) (fun f replaces => ?_)
      · subst same
        exact (Registry.suits_of_accept number accepted).imp_right .inl
      · exact .inr (.inr ⟨op, List.mem_append_right _ List.mem_cons_self, replaces⟩)

/-- Replacing a function asks nothing of the new one. -/
theorem edit_unchecked {d : Draft Callback} {f : Descriptor Callback}
    (described : d.toDescriptor = .ok f) (there : (rs.held? h f.key).isSome) :
    (rs.apply h (.edit [d])).failure = none ∧
      (rs.apply h (.edit [d])).registries.held? h f.key = some f := by
  have held : (rs.entries h).contains f.key = true := there
  have known : h < rs.next := by
    by_contra beyond
    rw [held?, entries_of_le (Nat.le_of_not_lt beyond)] at there
    cases there
  have made : edit h rs d = .ok (rs.modify h (·.insert f.key f), [.replaced f.key]) := by
    simp only [edit, described, held, if_true]
  simp only [apply, someSteps, steps, made, true_and]
  rw [held?_modify, if_pos ⟨rfl, known⟩, Table.get?_insert, if_pos rfl]

/-- **Only a replaced function may need a newer runtime.** Whatever was registered, replaced, taken
away, loaded and laid over one another, for a runtime whose version is a number: each function that
is stored anywhere needs no newer runtime, its version is no number, or some operation put it in the
place of another one. Such a replacement is never refused for a version, for every registry that
holds a function under the key. -/
theorem bounded_unless_replaced (history : History version ops rs)
    (number : version.place?.isSome) :
    (∀ h, ∀ e ∈ rs.entries h, Bounded version ops e.2) ∧
    ∀ h d f, d.toDescriptor = .ok f → (rs.held? h f.key).isSome →
      (rs.apply h (.edit [d])).failure = none ∧
        (rs.apply h (.edit [d])).registries.held? h f.key = some f :=
  ⟨(history.bounded number).entries, fun _ _ _ described there => edit_unchecked described there⟩

/-- A function that needs a runtime of some version. -/
def needing (needs : Value) : Descriptor Callback :=
  .native "$f" (.of (.done (.value .null))) needs

/-- Registries for version one with a function that needs none. -/
def unneeding : Registries :=
  after ⟨[.empty (.int 1)]⟩ (.change 0 (.add [.descriptor (needing .null)]))

/-- The function is replaced by one that needs version two. -/
def replacement : Operation := .change 0 (.edit [.descriptor (needing (.int 2))])

theorem history_replacement : History (.int 1)
    [.change 0 (.add [.descriptor (needing .null)]), replacement]
    (unneeding.after replacement) := by
  have first : History (.int 1) [.change 0 (.add [.descriptor (needing .null)])] unneeding :=
    .step .start Nat.one_pos
  exact first.step (extends_after ⟨[.empty (.int 1)]⟩ _ 0 Nat.one_pos).1

theorem held?_replacement :
    (unneeding.after replacement).held? 0 "f" = some (needing (.int 2)) :=
  (edit_unchecked (f := needing (.int 2)) rfl (by decide +kernel)).2

theorem bounded_unless_replaced_newer :
    (Value.int 1).place?.isSome ∧
    ∃ ops, History (.int 1) ops (unneeding.after replacement) ∧
      (∀ h, ∀ e ∈ (unneeding.after replacement).entries h, Bounded (.int 1) ops e.2) ∧
      (unneeding.after replacement).held? 0 "f" = some (needing (.int 2)) :=
  ⟨rfl, _, history_replacement, (bounded_unless_replaced history_replacement rfl).1,
    held?_replacement⟩

/-- A function that needs version two may stand in a registry for version one. -/
theorem not_always_bounded : ¬∀ (version : Value) (ops : List Operation) (rs : Registries),
    version.place?.isSome → History version ops rs →
      ∀ h key f, rs.held? h key = some f → Suits version f := by
  intro bounded
  have suits : Suits (.int 1) (needing (.int 2)) :=
    bounded _ _ _ rfl history_replacement 0 "f" _ held?_replacement
  exact absurd suits (by decide +kernel)

end Registries

end CommandScript
