import CommandScript.Proofs.Number.Digits
import CommandScript.Value.Order

/-!
# Comparing what argument texts stand for

Argument texts stand for truth values, numbers, texts and null. Among them equality and order go
together on numbers, and equality holds across kinds only where a truth value is equal to the number
that it counts as.

## Main definitions

- `CommandScript.Value.IsScalar` — the values that argument texts stand for
- `CommandScript.Value.CountsAs` — a truth value, and a number equal to what it counts as

## Main results

- `CommandScript.Value.map_swap_compareNumbers?` — the order of two numbers that change places
- `CommandScript.Value.compareNumbers?_int` — the order of whole numbers
- `CommandScript.Value.equal_across_kinds_iff` — values of different kinds that are equal
-/

namespace CommandScript

namespace Binary64

theorem Place.swap_compare (a b : Place) : (a.compare b).swap = b.compare a := by
  cases a with
  | «at» m =>
    cases b with
    | «at» n => exact Int.compare_swap m n
    | below => rfl
    | above => rfl
  | below => cases b <;> rfl
  | above => cases b <;> rfl

theorem compare_placeOfInt (m n : Int) :
    (placeOfInt m).compare (placeOfInt n) = compare m n := by
  have positive : (0 : Int) < unitsPerOne := by decide +kernel
  show compare (m * unitsPerOne : Int) (n * unitsPerOne) = compare m n
  rw [Int.compare_eq_ite_lt, Int.compare_eq_ite_lt]
  simp only [Int.mul_lt_mul_right positive]

end Binary64

namespace Value

variable {v w : Value}

theorem map_swap_compareNumbers? (v w : Value) :
    (v.compareNumbers? w).map Ordering.swap = w.compareNumbers? v := by
  unfold compareNumbers?
  cases v.place? with
  | none => cases w.place? <;> rfl
  | some a =>
    cases w.place? with
    | none => rfl
    | some b => exact congrArg some (Binary64.Place.swap_compare a b)

theorem compareNumbers?_eq_comm :
    v.compareNumbers? w = some .eq ↔ w.compareNumbers? v = some .eq := by
  rw [← map_swap_compareNumbers? v w]
  cases v.compareNumbers? w with
  | none => simp
  | some o => cases o <;> simp

theorem compareNumbers?_int (m n : Int) :
    (Value.int m).compareNumbers? (.int n) = some (compare m n) :=
  congrArg some (Binary64.compare_placeOfInt m n)

/-- The values that argument texts stand for. -/
inductive IsScalar : Value → Prop
  | null : IsScalar .null
  | bool (b : Bool) : IsScalar (.bool b)
  | int (n : Int) : IsScalar (.int n)
  | float (x : Binary64) : IsScalar (.float x)
  | text (s : String) : IsScalar (.text s)

theorem equal_iff_compareNumbers? (scalar : v.IsScalar) (scalar' : w.IsScalar)
    (numeric : w.isNumeric = true) : v.equal w = true ↔ v.compareNumbers? w = some .eq := by
  cases scalar' with
  | null | text s => cases numeric
  | _ => cases scalar <;> simp [equal, equalAtoms, text?, compareNumbers?, place?]

/-- A truth value counts as one or zero. -/
def counting (b : Bool) : Value := .int (if b then 1 else 0)

/-- The first value is a truth value, and the second one a number that is equal to what that counts
as. -/
def CountsAs (v w : Value) : Prop :=
  ∃ b, v = .bool b ∧ w.kind = .number ∧ w.equal (counting b) = true

theorem equal_bool_iff (scalar : v.IsScalar) (b : Bool) :
    v.equal (.bool b) = true ↔ v.equal (counting b) = true := by
  have number : (counting b).IsScalar := .int _
  rw [equal_iff_compareNumbers? scalar (.bool b) rfl, equal_iff_compareNumbers? scalar number rfl]
  rfl

theorem bool_equal_iff (scalar : w.IsScalar) (numeric : w.isNumeric = true) (b : Bool) :
    (Value.bool b).equal w = true ↔ w.equal (counting b) = true := by
  rw [← equal_bool_iff scalar, equal_iff_compareNumbers? (.bool b) scalar numeric,
    equal_iff_compareNumbers? scalar (.bool b) rfl, compareNumbers?_eq_comm]

theorem isNumeric_of_equal (scalar : v.IsScalar) (scalar' : w.IsScalar) (same : v.equal w = true)
    (other : v.kind ≠ w.kind) : v.isNumeric = true ∧ w.isNumeric = true := by
  cases scalar <;> cases scalar' <;>
    simp_all [equal, equalAtoms, text?, compareNumbers?, place?, isNumeric, kind]

theorem isNumeric_iff : v.isNumeric = true ↔ v.kind = .number ∨ v.kind = .boolean := by
  simp [isNumeric]

theorem exists_bool_of_kind (scalar : v.IsScalar) (boolean : v.kind = .boolean) :
    ∃ b, v = .bool b := by
  cases scalar with
  | bool b => exact ⟨b, rfl⟩
  | _ => cases boolean

/-- **Values of different kinds are equal** where one is a truth value that counts as the other, and
only there. -/
theorem equal_across_kinds_iff (scalar : v.IsScalar) (scalar' : w.IsScalar) :
    v.equal w = true ∧ v.kind ≠ w.kind ↔ v.CountsAs w ∨ w.CountsAs v := by
  constructor
  · rintro ⟨same, other⟩
    obtain ⟨numeric, numeric'⟩ := isNumeric_of_equal scalar scalar' same other
    obtain number | boolean := isNumeric_iff.1 numeric
    · obtain number' | boolean' := isNumeric_iff.1 numeric'
      · exact absurd (number.trans number'.symm) other
      · obtain ⟨b, rfl⟩ := exists_bool_of_kind scalar' boolean'
        exact .inr ⟨b, rfl, number, (equal_bool_iff scalar b).1 same⟩
    · obtain number' | boolean' := isNumeric_iff.1 numeric'
      · obtain ⟨b, rfl⟩ := exists_bool_of_kind scalar boolean
        exact .inl ⟨b, rfl, number', (bool_equal_iff scalar' numeric' b).1 same⟩
      · exact absurd (boolean.trans boolean'.symm) other
  · rintro (⟨b, rfl, number, same⟩ | ⟨b, rfl, number, same⟩)
    · have numeric : w.isNumeric = true := isNumeric_iff.2 (.inl number)
      refine ⟨(bool_equal_iff scalar' numeric b).2 same, ?_⟩
      rw [number]
      nofun
    · refine ⟨(equal_bool_iff scalar b).2 same, ?_⟩
      rw [number]
      nofun

end Value

end CommandScript
