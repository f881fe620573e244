import Mathlib.Data.List.Basic
import CommandScript.Value.Conversion

/-!
# Values without a literal

A literal spells a value out with all that it is made of. The only thing that cannot be spelled out
is a whole number past the limit on digits, and so the values that have no literal are those in
which there is such a number.

## Main definitions

- `CommandScript.Value.parts` — what a value is made of
- `CommandScript.Value.Overlong` — a whole number past the limit is somewhere in a value

## Main results

- `CommandScript.Value.literalText_eq_error_iff` — which values have no literal
-/

namespace CommandScript

namespace Value

variable {v w : Value} {xs : List Value} {es : List (Value × Value)}

/-- The values that a value is made of: the items of a collection, and the keys and the values of a
mapping. -/
def parts : Value → List Value
  | .list xs => xs
  | .tuple xs => xs
  | .set xs => xs
  | .frozenSet xs => xs
  | .map es => es.flatMap fun e => [e.1, e.2]
  | .record es => es.flatMap fun e => [e.1, e.2]
  | _ => []

theorem exists_mem_of_mem_flatMap (mem : w ∈ es.flatMap fun e => [e.1, e.2]) :
    ∃ e ∈ es, w = e.1 ∨ w = e.2 := by
  obtain ⟨e, there, part⟩ := List.mem_flatMap.1 mem
  exact ⟨e, there, by simpa using part⟩

theorem sizeOf_lt_of_mem_entries (mem : w ∈ es.flatMap fun e => [e.1, e.2]) :
    sizeOf w < sizeOf es := by
  obtain ⟨⟨k, x⟩, there, part⟩ := exists_mem_of_mem_flatMap mem
  have entry := List.sizeOf_lt_of_mem there
  rw [Prod.mk.sizeOf_spec] at entry
  obtain rfl | rfl := part <;> omega

theorem sizeOf_lt_of_mem_parts (mem : w ∈ v.parts) : sizeOf w < sizeOf v := by
  cases v with
  | list xs | tuple xs | set xs | frozenSet xs =>
    have item : sizeOf w < sizeOf xs := List.sizeOf_lt_of_mem mem
    simp only [list.sizeOf_spec, tuple.sizeOf_spec, set.sizeOf_spec, frozenSet.sizeOf_spec]
    omega
  | map es | record es =>
    have entry : sizeOf w < sizeOf es := sizeOf_lt_of_mem_entries mem
    simp only [map.sizeOf_spec, record.sizeOf_spec]
    omega
  | _ => cases mem

/-- A whole number past the limit on digits is the value, or is somewhere in it. -/
inductive Overlong : Value → Prop
  | int {n : Int} (beyond : Numeral.exceedsLimit n = true) : Overlong (.int n)
  | derivedInt {n : Int} (beyond : Numeral.exceedsLimit n = true) : Overlong (.derivedInt n)
  | part {v w : Value} (mem : w ∈ v.parts) (overlong : Overlong w) : Overlong v

theorem literals?_eq_none_iff : literals? xs = none ↔ ∃ x ∈ xs, x.literal? = none := by
  induction xs with
  | nil => simp [literals?]
  | cons x xs ih =>
    rw [literals?, List.exists_mem_cons_iff, ← ih]
    cases x.literal? <;> simp

theorem entryLiterals?_eq_none_iff : entryLiterals? es = none ↔
    ∃ x ∈ es.flatMap (fun e => [e.1, e.2]), x.literal? = none := by
  induction es with
  | nil => simp [entryLiterals?]
  | cons e es ih =>
    obtain ⟨k, x⟩ := e
    rw [entryLiterals?, List.flatMap_cons, List.cons_append, List.cons_append, List.nil_append,
      List.exists_mem_cons_iff, List.exists_mem_cons_iff, ← ih]
    cases k.literal? with
    | none => simp
    | some a => cases x.literal? <;> simp

theorem intText?_eq_none_iff {n : Int} :
    Numeral.intText? n = none ↔ Numeral.exceedsLimit n = true := by
  rw [Numeral.intText?]
  cases Numeral.exceedsLimit n <;> simp

/-- What is no number has a literal if all its parts have one. -/
theorem literal?_eq_none_iff_parts (noInt : ∀ n, v ≠ .int n) (noDerived : ∀ n, v ≠ .derivedInt n) :
    v.literal? = none ↔ ∃ w ∈ v.parts, w.literal? = none := by
  cases v with
  | int n => exact absurd rfl (noInt n)
  | derivedInt n => exact absurd rfl (noDerived n)
  | list | tuple | set | frozenSet =>
    rw [literal?, Option.map_eq_none_iff, literals?_eq_none_iff]
    rfl
  | map | record =>
    rw [literal?, Option.map_eq_none_iff, entryLiterals?_eq_none_iff]
    rfl
  | _ => simp [literal?, parts]

theorem overlong_int_iff {n : Int} : (Value.int n).Overlong ↔ Numeral.exceedsLimit n = true := by
  refine ⟨fun overlong => ?_, .int⟩
  cases overlong with
  | int beyond => exact beyond
  | part mem => cases mem

theorem overlong_derivedInt_iff {n : Int} :
    (Value.derivedInt n).Overlong ↔ Numeral.exceedsLimit n = true := by
  refine ⟨fun overlong => ?_, .derivedInt⟩
  cases overlong with
  | derivedInt beyond => exact beyond
  | part mem => cases mem

theorem overlong_iff_parts (noInt : ∀ n, v ≠ .int n) (noDerived : ∀ n, v ≠ .derivedInt n) :
    v.Overlong ↔ ∃ w ∈ v.parts, w.Overlong := by
  constructor
  · rintro (_ | _ | ⟨mem, overlong⟩)
    · exact absurd rfl (noInt _)
    · exact absurd rfl (noDerived _)
    · exact ⟨_, mem, overlong⟩
  · rintro ⟨w, mem, overlong⟩
    exact .part mem overlong

theorem literal?_eq_none_iff (v : Value) : v.literal? = none ↔ v.Overlong := by
  by_cases number : ∃ n, v = .int n ∨ v = .derivedInt n
  · obtain ⟨n, rfl | rfl⟩ := number
    · rw [literal?, intText?_eq_none_iff, overlong_int_iff]
    · rw [literal?, intText?_eq_none_iff, overlong_derivedInt_iff]
  · have noInt (n : Int) : v ≠ .int n := fun same => number ⟨n, .inl same⟩
    have noDerived (n : Int) : v ≠ .derivedInt n := fun same => number ⟨n, .inr same⟩
    rw [literal?_eq_none_iff_parts noInt noDerived, overlong_iff_parts noInt noDerived]
    exact exists_congr fun w => and_congr_right fun mem => literal?_eq_none_iff w
termination_by sizeOf v
decreasing_by exact sizeOf_lt_of_mem_parts mem

/-- **Which values have no literal**: those with a whole number past the limit on digits. -/
theorem literalText_eq_error_iff : v.literalText = .error .unwritable ↔ v.Overlong := by
  rw [← literal?_eq_none_iff, literalText]
  cases v.literal? <;> simp

theorem exists_literalText (spelled : ¬v.Overlong) : ∃ shown, v.literalText = .ok shown := by
  rw [← literal?_eq_none_iff] at spelled
  obtain ⟨shown, literal⟩ := Option.ne_none_iff_exists'.1 spelled
  exact ⟨shown, by rw [literalText, literal]⟩

end Value

end CommandScript
