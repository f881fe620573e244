import CommandScript.Printed
import CommandScript.Proofs.Script.Scalar
import CommandScript.Value.Equality

/-!
# Printed numbers

A number is printed where a call stands for it, and the text is read where an argument is taken for
a value. Whole numbers and whole doubles are printed and read as whole numbers, other doubles as
digits around a point. A double that is near to zero is printed with an exponent, which is not part
of a number in an argument: it comes through as a text.

## Main definitions

- `CommandScript.Value.IsNumber` — the numbers that have a text
- `CommandScript.Value.isMinute` — the doubles that are printed with an exponent

## Main results

- `CommandScript.Value.scalar_printed` — a number is read again from its text
- `CommandScript.Value.scalar_printed_of_isMinute` — a minute one comes through as a text
-/

namespace CommandScript

open Numeral

namespace Binary64

variable {negative : Bool} {rank : Fin finiteCount}

theorem Place.compare_self (p : Place) : p.compare p = .eq := by
  cases p <;> simp [Place.compare]

/-! ### Whole doubles -/

/-- A whole double is the whole number that it is cut off to. -/
theorem truncated_mul (whole : unitsOf rank % unitsPerOne = 0) :
    truncated negative rank * unitsPerOne = signedUnits negative rank := by
  have units : ((unitsOf rank / unitsPerOne : Nat) : Int) * unitsPerOne = unitsOf rank := by
    exact_mod_cast Nat.div_mul_cancel (Nat.dvd_of_mod_eq_zero whole)
  rw [truncated, signedUnits]
  split
  · rw [Int.neg_mul, units]
  · exact units

theorem exceedsLimit_of_div {k : Int} {m n d : Nat} (count : Nat) (size : k.natAbs = m / d)
    (positive : 0 < d) (less : m < n) (bound : n ≤ Nat.pow 10 count * d)
    (few : count ≤ digitLimit) : exceedsLimit k = false := by
  refine exceedsLimit_eq_false count few ?_
  rw [size]
  exact (Nat.div_lt_iff_lt_mul positive).2 (Nat.lt_of_lt_of_le less bound)

/-- The whole part of a double is within the limit on digits. -/
theorem exceedsLimit_truncated (negative : Bool) (rank : Fin finiteCount) :
    exceedsLimit (truncated negative rank) = false := by
  have size : (truncated negative rank).natAbs = unitsOf rank / unitsPerOne := by
    rw [truncated]
    split
    · rw [Int.natAbs_neg, Int.natAbs_natCast]
    · exact Int.natAbs_natCast _
  exact exceedsLimit_of_div 400 size (by decide +kernel) (strictMono_unitsOf rank.isLt)
    (by decide +kernel) (by decide)

/-! ### Doubles with an exponent -/

/-- A decimal whose point is far to the left is written with an exponent. -/
theorem decimalText_of_place_lt {d : Decimal} (small : d.place < -3) :
    ∃ c cs, plainStyle.decimalText d = c :: cs ∧ c.isDigit = true ∧ 'e' ∈ cs := by
  obtain ⟨c, cs, digits, digit⟩ := exists_cons_toDigits d.digits
  have outside : ¬(plainStyle.leastPlace ≤ d.place ∧ d.place ≤ plainStyle.greatestPlace) :=
    fun inside => absurd inside.1 (Int.not_le.2 small)
  have length : d.place = (Nat.toDigits 10 d.digits).length + d.exponent := rfl
  rw [FloatStyle.decimalText]
  dsimp only
  rw [← length, if_neg outside, digits]
  cases cs with
  | nil => exact ⟨c, _, rfl, digit, List.mem_cons_self⟩
  | cons d cs =>
    exact ⟨c, _, rfl, digit, List.mem_cons_of_mem _ (List.mem_append_right _ List.mem_cons_self)⟩

/-- A double near to zero is written with an exponent. -/
theorem text_of_small (negative : Bool) (positive : 0 < rank.val)
    (small : 10000 * unitsOf rank < unitsPerOne) :
    ∃ c cs, (finite negative rank).text = String.ofList (c :: cs) ∧
      (c = '-' ∨ c.isDigit = true) ∧ 'e' ∈ cs := by
  obtain ⟨c, cs, written, digit, exponent⟩ :=
    decimalText_of_place_lt (place_shortest_lt positive small)
  rw [Binary64.text, FloatStyle.render, if_neg (Nat.ne_of_gt positive), written]
  cases negative with
  | true => exact ⟨'-', c :: cs, rfl, .inl rfl, List.mem_cons_of_mem c exponent⟩
  | false => exact ⟨c, cs, rfl, .inr digit, exponent⟩

end Binary64

namespace Value

open Binary64

variable {v : Value}

/-- The numbers that have a text: whole ones within the limit on digits, and finite doubles. -/
inductive IsNumber : Value → Prop
  | int {n : Int} (within : exceedsLimit n = false) : IsNumber (.int n)
  | derivedInt {n : Int} (within : exceedsLimit n = false) : IsNumber (.derivedInt n)
  | float (negative : Bool) (rank : Fin finiteCount) : IsNumber (.float (.finite negative rank))

/-- Whether a value is a double nearer to zero than one ten-thousandth, but not zero. -/
def isMinute : Value → Bool
  | .float (.finite _ r) => 0 < r.val && 10000 * unitsOf r < unitsPerOne
  | _ => false

theorem equal_whole {negative : Bool} {rank : Fin finiteCount}
    (whole : unitsOf rank % unitsPerOne = 0) :
    equal (.int (truncated negative rank)) (.float (.finite negative rank)) = true := by
  have same : placeOfInt (truncated negative rank) = .at (signedUnits negative rank) :=
    congrArg Place.at (truncated_mul whole)
  simp only [equal, equalAtoms, text?, compareNumbers?, Value.place?, Binary64.place?, same,
    Place.compare_self, beq_self_eq_true]

theorem equal_float (negative : Bool) (rank : Fin finiteCount) :
    equal (.float (.finite negative rank)) (.float (.finite negative rank)) = true := by
  simp only [equal, equalAtoms, text?, compareNumbers?, Value.place?, Binary64.place?,
    Place.compare_self, beq_self_eq_true]

theorem equal_int (n : Int) : equal (.int n) (.int n) = true := by
  simp only [equal, equalAtoms, text?, compareNumbers?, Value.place?, Place.compare_self,
    beq_self_eq_true]

theorem equal_derivedInt (n : Int) : equal (.int n) (.derivedInt n) = true := by
  simp only [equal, equalAtoms, text?, compareNumbers?, Value.place?, Place.compare_self,
    beq_self_eq_true]

theorem plainText_of_plain? {n : Int} (within : exceedsLimit n = false)
    (whole : v.plain? = intText? n) : v.plainText = .ok (intTextUnlimited n) := by
  rw [plainText, whole, intText?, within, if_neg Bool.false_ne_true]

theorem printed_int {n : Int} (within : exceedsLimit n = false) :
    printed (.int n) = .ok (intTextUnlimited n) := by
  have text := plainText_of_plain? (v := .int n) within (by simp [plain?, literal?])
  simp [printed, text, Except.mapError]

theorem printed_derivedInt {n : Int} (within : exceedsLimit n = false) :
    printed (.derivedInt n) = .ok (intTextUnlimited n) := by
  have text := plainText_of_plain? (v := .derivedInt n) within (by simp [plain?, literal?])
  simp [printed, text, Except.mapError]

theorem scalar_intText {k : Int} (within : exceedsLimit k = false) :
    Script.scalar (intTextUnlimited k) = .ok (.int k) := by
  rw [intTextUnlimited, Script.scalar_of_isNumeral (Script.isNumeral_intChars k),
    Script.number_intChars within]

theorem printed_float {negative : Bool} {rank : Fin finiteCount}
    (fractional : unitsOf rank % unitsPerOne ≠ 0) :
    printed (.float (.finite negative rank)) = .ok (finite negative rank).text := by
  rw [printed, printedFloat, isWhole, decide_eq_false fractional, if_neg Bool.false_ne_true]

theorem printed_whole {negative : Bool} {rank : Fin finiteCount}
    (whole : unitsOf rank % unitsPerOne = 0) :
    printed (.float (.finite negative rank)) =
      .ok (intTextUnlimited (truncated negative rank)) := by
  rw [printed, printedFloat, isWhole, decide_eq_true whole, if_pos rfl]

/-- **A number is read again from its text**, unless it is minute. -/
theorem scalar_printed (number : v.IsNumber) (plain : v.isMinute = false) :
    ∃ t w, v.printed = .ok t ∧ Script.scalar t = .ok w ∧ w.kind = .number ∧ w.equal v = true := by
  cases number with
  | int within => exact ⟨_, _, printed_int within, scalar_intText within, rfl, equal_int _⟩
  | derivedInt within =>
    exact ⟨_, _, printed_derivedInt within, scalar_intText within, rfl, equal_derivedInt _⟩
  | float negative rank =>
    by_cases whole : unitsOf rank % unitsPerOne = 0
    · exact ⟨_, _, printed_whole whole, scalar_intText (exceedsLimit_truncated negative rank), rfl,
        equal_whole whole⟩
    · have positive : 0 < rank.val := Nat.pos_of_ne_zero fun zero => whole (by
        rw [zero, unitsOf_of_lt hiddenBit_pos, Nat.zero_mod])
      have large : unitsPerOne ≤ 10000 * unitsOf rank := by
        simpa [isMinute, positive] using plain
      obtain ⟨p, text, read⟩ := exists_positional_text negative whole large
      refine ⟨_, _, printed_float whole, ?_, rfl, equal_float negative rank⟩
      rw [text, Script.scalar_of_isNumeral (Script.isNumeral_signed negative p),
        Script.number_signed, read, Option.getD_some]

/-- **A minute number comes through as a text.** -/
theorem scalar_printed_of_isMinute (minute : v.isMinute = true) :
    ∃ t, v.printed = .ok t ∧ Script.scalar t = .ok (.text t) := by
  unfold isMinute at minute
  split at minute
  · next negative rank =>
    simp only [Bool.and_eq_true, decide_eq_true_eq] at minute
    obtain ⟨positive, small⟩ := minute
    obtain ⟨c, cs, text, first, exponent⟩ := text_of_small negative positive small
    have fractional : unitsOf rank % unitsPerOne ≠ 0 := by
      have some : 0 < unitsOf rank := Nat.zero_lt_of_lt (strictMono_unitsOf positive)
      rw [Nat.mod_eq_of_lt (by omega)]
      exact Nat.ne_of_gt some
    have unread : Script.isNumeral (c :: cs) = false := by
      refine Bool.eq_false_iff.2 fun numeral => ?_
      have letter := Script.mem_of_isNumeral numeral (List.mem_cons_of_mem c exponent)
      exact absurd letter (by decide)
    refine ⟨_, printed_float fractional, ?_⟩
    rw [text]
    exact Script.scalar_of_not_isNumeral first unread
  · cases minute

end Value

end CommandScript
